import CreatorNode.Queue.Step

namespace CreatorNode

variable {p : Processor} {a : QueueAction} {s s₁ s' : QueueState} {acts : List QueueAction}
  {id i : Nat} {job : Job} {st st₀ : JobStatus} {e e₀ : Job × JobStatus} {k key : String}

theorem index_eq_of_filter_length_le_one {α : Type} {l : List α} {q : α → Bool} {j : Nat}
    {x y : α} (h : (l.filter q).length ≤ 1) (hi : l[i]? = some x) (hj : l[j]? = some y)
    (hx : q x) (hy : q y) : i = j := by
  induction l generalizing i j with
  | nil => simp at hi
  | cons c l ih =>
    have hpos : ∀ {n z}, l[n]? = some z → q z → 0 < (l.filter q).length := fun hn hz =>
      List.length_pos_of_mem (List.mem_filter.mpr ⟨List.getElem?_mem hn, hz⟩)
    cases i <;> cases j <;>
      simp only [List.getElem?_cons_zero, List.getElem?_cons_succ, Option.some.injEq] at hi hj
    · rfl
    · subst hi
      simp only [List.filter_cons, hx, ite_true, List.length_cons] at h
      exact absurd (hpos hj hy) (by omega)
    · subst hj
      simp only [List.filter_cons, hy, ite_true, List.length_cons] at h
      exact absurd (hpos hi hx) (by omega)
    · rw [ih (((List.sublist_cons_self c l).filter q).length_le.trans h) hi hj]

def JobStatus.finished : JobStatus → Bool
  | .completed _ | .failed _ => true
  | _ => false

theorem QueueState.add_jobs_of_some (hi : s.jobs[i]? = some e) : (s.add job).jobs[i]? = some e := by
  rw [QueueState.add, List.getElem?_append_left (List.getElem?_eq_some_iff.mp hi).1, hi]

theorem QueueState.add_jobs_some (hi : (s.add job).jobs[i]? = some e) :
    s.jobs[i]? = some e ∨ i = s.jobs.length ∧ e = (job, .waiting) := by
  by_cases hlt : i < s.jobs.length
  · exact .inl (by rwa [QueueState.add, List.getElem?_append_left hlt] at hi)
  · rw [QueueState.add, List.getElem?_append_right (not_lt.mp hlt)] at hi
    rcases hn : i - s.jobs.length with _ | n <;> simp [hn] at hi
    exact .inr ⟨by omega, hi.symm⟩

@[simp] theorem QueueState.write_jobs :
    (s.write id job key st).jobs = (s.setStatus id job st).jobs := rfl

theorem QueueState.setStatus_jobs_self (hid : s.jobs[id]? = some e₀) :
    (s.setStatus id job st).jobs[id]? = some (job, st) :=
  List.getElem?_set_self (List.getElem?_eq_some_iff.mp hid).1

theorem QueueState.setStatus_jobs_of_ne (hne : id ≠ i) :
    (s.setStatus id job st).jobs[i]? = s.jobs[i]? :=
  List.getElem?_set_ne hne

theorem QueueState.setStatus_map_fst (hid : s.jobs[id]? = some (job, st₀)) :
    (s.setStatus id job st).jobs.map (·.1) = s.jobs.map (·.1) := by
  refine List.ext_getElem? fun n => ?_
  rw [List.getElem?_map, List.getElem?_map]
  rcases eq_or_ne id n with rfl | hne
  · rw [QueueState.setStatus_jobs_self hid, hid]; rfl
  · rw [QueueState.setStatus_jobs_of_ne hne]

theorem queueStep_store_cases (h : queueStep p a s = some s') :
    (∃ job, s' = s.add job) ∨ (∃ seconds, s' = s.tick seconds) ∨
      (∃ id job st₀ st, s.jobs[id]? = some (job, st₀) ∧ st₀.finished = false ∧
        statusKey p job = none ∧ s' = s.setStatus id job st) ∨
      ∃ id job st₀ st key, s.jobs[id]? = some (job, st₀) ∧ st₀.finished = false ∧
        statusKey p job = some key ∧ st ≠ .waiting ∧ s' = s.write id job key st := by
  rcases queueStep_cases h with ⟨job, -, rfl⟩ | ⟨seconds, rfl⟩ | ⟨id, job, hid, hh, rfl⟩ |
    ⟨id, job, st₀, st, taskType, _, hid, hh, rfl, hcase⟩
  · exact .inl ⟨job, rfl⟩
  · exact .inr (.inl ⟨seconds, rfl⟩)
  · exact .inr (.inr (.inl ⟨id, job, _, _, hid, rfl, by simp [statusKey, hh], rfl⟩))
  · refine .inr (.inr (.inr ⟨id, job, st₀, st, _, hid, ?_, by simp [statusKey, hh], ?_, rfl⟩))
    all_goals rcases hcase with ⟨rfl, rfl, -⟩ | ⟨rfl, -, _, rfl⟩ | ⟨rfl, _, rfl⟩ <;> simp [JobStatus.finished]

theorem queueStep_jobs_cases (h : queueStep p a s = some s') :
    (∃ job, s' = s.add job) ∨ s'.jobs = s.jobs ∨
      ∃ id job st₀ st, s.jobs[id]? = some (job, st₀) ∧ st₀.finished = false ∧
        s'.jobs = (s.setStatus id job st).jobs := by
  rcases queueStep_store_cases h with ⟨job, rfl⟩ | ⟨_, rfl⟩ | ⟨id, job, st₀, st, hid, hst₀, -, rfl⟩ |
    ⟨id, job, st₀, st, _, hid, hst₀, -, -, rfl⟩
  · exact .inl ⟨job, rfl⟩
  · exact .inr (.inl rfl)
  all_goals exact .inr (.inr ⟨id, job, st₀, st, hid, hst₀, rfl⟩)

def QueueState.keyHolders (p : Processor) (s : QueueState) (k : String) : List Job :=
  (s.jobs.map (·.1)).filter fun job => statusKey p job = some k

theorem QueueState.keyHolders_add :
    (s.add job).keyHolders p k =
      s.keyHolders p k ++ if statusKey p job = some k then [job] else [] := by
  simp only [QueueState.keyHolders, QueueState.add, List.map_append, List.filter_append]
  split <;> simp_all

theorem QueueState.mem_keyHolders (hi : s.jobs[i]? = some (job, st))
    (hk : statusKey p job = some k) : job ∈ s.keyHolders p k :=
  List.mem_filter.mpr ⟨List.mem_map.mpr ⟨_, List.getElem?_mem hi, rfl⟩, by simpa using hk⟩

/-- What a queue's redis store holds, expired or not: a key holds a state only if a job whose state
goes there has been taken by a handler, and a job that no other job shares its key with has its own
state there. -/
structure QueueState.StoreAgrees (p : Processor) (s : QueueState) : Prop where
  written : ∀ k, s.redis k ≠ none → ∃ (i : Nat) (job : Job) (st : JobStatus),
    s.jobs[i]? = some (job, st) ∧ statusKey p job = some k ∧ st ≠ .waiting
  agrees : ∀ (i : Nat) (job : Job) (st : JobStatus) (k : String), s.jobs[i]? = some (job, st) →
    statusKey p job = some k →
    (s.keyHolders p k).length ≤ 1 → (s.redis k).map (·.1) = st.processState

theorem QueueState.StoreAgrees.init : QueueState.init.StoreAgrees p :=
  ⟨fun _ h => absurd rfl h, fun i _ _ _ hi => by simp [QueueState.init] at hi⟩

theorem QueueState.StoreAgrees.add (h : s.StoreAgrees p) : (s.add job).StoreAgrees p := by
  refine ⟨fun k hk => ?_, fun i job' st k hi hk hu => ?_⟩
  · obtain ⟨i, job', st, hi, hk, hst⟩ := h.written k hk
    exact ⟨i, job', st, QueueState.add_jobs_of_some hi, hk, hst⟩
  · rw [QueueState.keyHolders_add] at hu
    rcases QueueState.add_jobs_some hi with hi | ⟨-, he⟩
    · exact h.agrees i job' st k hi hk (le_trans (by simp) hu)
    · obtain ⟨rfl, rfl⟩ := Prod.mk.inj he
      show (s.redis k).map (·.1) = none
      rw [Option.map_eq_none']
      by_contra hw
      obtain ⟨i', job'', st', hi', hk', -⟩ := h.written k hw
      have := List.length_pos_of_mem (QueueState.mem_keyHolders hi' hk')
      simp only [hk, ite_true, List.length_append, List.length_singleton] at hu
      omega

theorem QueueState.StoreAgrees.write (h : s.StoreAgrees p) (hid : s.jobs[id]? = some (job, st₀))
    (hk : statusKey p job = some key) (hst : st ≠ .waiting) :
    (s.write id job key st).StoreAgrees p := by
  refine ⟨fun k hw => ?_, fun i job' st' k hi hk' hu => ?_⟩
  · by_cases hkey : k = key
    · exact ⟨id, job, st, QueueState.setStatus_jobs_self hid, hkey ▸ hk, hst⟩
    · obtain ⟨i, job', st', hi, hk', hst'⟩ :=
        h.written k (by simpa [QueueState.write, hkey] using hw)
      have hne : id ≠ i := by
        rintro rfl
        obtain rfl : job = job' := (Prod.mk.inj (Option.some.inj (hid.symm.trans hi))).1
        exact hkey (Option.some.inj (hk'.symm.trans hk))
      exact ⟨i, job', st', (QueueState.setStatus_jobs_of_ne hne).trans hi, hk', hst'⟩
  · simp only [QueueState.keyHolders, QueueState.write_jobs, QueueState.setStatus_map_fst hid] at hu
    rcases eq_or_ne id i with rfl | hne
    · obtain ⟨rfl, rfl⟩ :=
        Prod.mk.inj (Option.some.inj ((QueueState.setStatus_jobs_self hid).symm.trans hi))
      obtain rfl : k = key := Option.some.inj (hk'.symm.trans hk)
      simp [QueueState.write, Option.map_map, Function.comp_def]
    · rw [QueueState.write_jobs, QueueState.setStatus_jobs_of_ne hne] at hi
      have hkey : k ≠ key := by
        rintro rfl
        exact hne (index_eq_of_filter_length_le_one hu
          (show (s.jobs.map (·.1))[id]? = some job by simp [hid])
          (show (s.jobs.map (·.1))[i]? = some job' by simp [hi]) (by simpa using hk)
          (by simpa using hk'))
      simpa [QueueState.write, Function.update_noteq hkey] using h.agrees i job' st' k hi hk' hu

theorem QueueState.StoreAgrees.setStatus (h : s.StoreAgrees p)
    (hid : s.jobs[id]? = some (job, st₀)) (hk : statusKey p job = none) :
    (s.setStatus id job st).StoreAgrees p := by
  have hne : ∀ {i job' st' k}, s.jobs[i]? = some (job', st') → statusKey p job' = some k →
      id ≠ i := by
    rintro i job' st' k hi hk' rfl
    obtain rfl : job = job' := (Prod.mk.inj (Option.some.inj (hid.symm.trans hi))).1
    simp [hk] at hk'
  refine ⟨fun k hw => ?_, fun i job' st' k hi hk' hu => ?_⟩
  · obtain ⟨i, job', st', hi, hk', hst'⟩ := h.written k hw
    exact ⟨i, job', st', (QueueState.setStatus_jobs_of_ne (hne hi hk')).trans hi, hk', hst'⟩
  · simp only [QueueState.keyHolders, QueueState.setStatus_map_fst hid] at hu
    rcases eq_or_ne id i with rfl | hi'
    · obtain ⟨rfl, -⟩ :=
        Prod.mk.inj (Option.some.inj ((QueueState.setStatus_jobs_self hid).symm.trans hi))
      simp [hk] at hk'
    · exact h.agrees i job' st' k (by rwa [QueueState.setStatus_jobs_of_ne hi'] at hi) hk' hu

theorem queueStep_keeps_finished (h : queueStep p a s = some s') (hi : s.jobs[i]? = some (job, st))
    (hst : st.finished) : s'.jobs[i]? = some (job, st) := by
  rcases queueStep_jobs_cases h with ⟨_, rfl⟩ | hjobs | ⟨id, _, st₀, _, hid, hst₀, hjobs⟩
  · exact QueueState.add_jobs_of_some hi
  · rwa [hjobs]
  · have hne : id ≠ i := by
      rintro rfl
      obtain rfl : st₀ = st := (Prod.mk.inj (Option.some.inj (hid.symm.trans hi))).2
      simp [hst] at hst₀
    rw [hjobs, QueueState.setStatus_jobs_of_ne hne, hi]

theorem queueRun_keeps_finished (hr : queueRun p acts s = some s')
    (hi : s.jobs[i]? = some (job, st)) (hst : st.finished) : s'.jobs[i]? = some (job, st) := by
  induction acts generalizing s with
  | nil => cases hr; exact hi
  | cons a as ih =>
    obtain ⟨s₁, h₁, hr⟩ := Option.bind_eq_some.mp hr
    exact ih hr (queueStep_keeps_finished h₁ hi hst)

theorem queueStep_keyHolders_length_le (h : queueStep p a s = some s') :
    (s.keyHolders p k).length ≤ (s'.keyHolders p k).length := by
  rcases queueStep_store_cases h with ⟨job, rfl⟩ | ⟨_, rfl⟩ | ⟨id, job, st₀, st, hid, -, -, rfl⟩ |
    ⟨id, job, st₀, st, key, hid, -, -, -, rfl⟩
  · simp [QueueState.keyHolders_add]
  · exact le_rfl
  all_goals simp [QueueState.keyHolders, QueueState.setStatus_map_fst hid]

theorem queueRun_keyHolders_length_le (hr : queueRun p acts s = some s') :
    (s.keyHolders p k).length ≤ (s'.keyHolders p k).length := by
  induction acts generalizing s with
  | nil => cases hr; exact le_rfl
  | cons a as ih =>
    obtain ⟨s₁, h₁, hr⟩ := Option.bind_eq_some.mp hr
    exact (queueStep_keyHolders_length_le h₁).trans (ih hr)

/-- A step leaves the key of a finished job alone while no other job's state goes there: the job
itself is done writing, and any other job writing there would share the key. -/
theorem queueStep_redis_of_finished (h : queueStep p a s = some s')
    (hi : s.jobs[i]? = some (job, st)) (hst : st.finished) (hk : statusKey p job = some k)
    (hu : (s'.keyHolders p k).length ≤ 1) : s'.redis k = s.redis k := by
  rcases queueStep_store_cases h with ⟨_, rfl⟩ | ⟨_, rfl⟩ | ⟨id, _, _, _, -, -, -, rfl⟩ |
    ⟨id, job', st₀, st', key, hid, hst₀, hk', -, rfl⟩
  · rfl
  · rfl
  · rfl
  · show Function.update s.redis key _ k = s.redis k
    refine Function.update_noteq (fun hkey => ?_) _ _
    subst hkey
    have hsame : id = i := by
      simp only [QueueState.keyHolders, QueueState.write_jobs, QueueState.setStatus_map_fst hid] at hu
      exact index_eq_of_filter_length_le_one hu
        (show (s.jobs.map (·.1))[id]? = some job' by simp [hid])
        (show (s.jobs.map (·.1))[i]? = some job by simp [hi]) (by simpa using hk')
        (by simpa using hk)
    subst hsame
    obtain rfl : st₀ = st := (Prod.mk.inj (Option.some.inj (hid.symm.trans hi))).2
    simp [hst] at hst₀

theorem queueRun_redis_of_finished (hr : queueRun p acts s = some s')
    (hi : s.jobs[i]? = some (job, st)) (hst : st.finished) (hk : statusKey p job = some k)
    (hu : (s'.keyHolders p k).length ≤ 1) : s'.redis k = s.redis k := by
  induction acts generalizing s with
  | nil => cases hr; rfl
  | cons a as ih =>
    obtain ⟨s₁, h₁, hr⟩ := Option.bind_eq_some.mp hr
    rw [ih hr (queueStep_keeps_finished h₁ hi hst),
      queueStep_redis_of_finished h₁ hi hst hk ((queueRun_keyHolders_length_le hr).trans hu)]

theorem queueStep_finishing_write (h : queueStep p a s = some s')
    (hi₀ : s.jobs[i]? = some (job, st₀)) (hst₀ : st₀.finished = false)
    (hi : s'.jobs[i]? = some (job, st)) (hst : st.finished) (hk : statusKey p job = some k) :
    s'.redis k = st.processState.map (·, s.now + expiration) := by
  have hmoved : s'.jobs[i]? ≠ s.jobs[i]? := fun he => by
    rw [he, hi₀] at hi
    obtain rfl := (Prod.mk.inj (Option.some.inj hi)).2
    simp [hst] at hst₀
  rcases queueStep_store_cases h with ⟨_, rfl⟩ | ⟨_, rfl⟩ | ⟨id, job', _, st', hid, -, hk', rfl⟩ |
    ⟨id, job', _, st', key, hid, -, hk', -, rfl⟩
  · exact absurd ((QueueState.add_jobs_of_some hi₀).trans hi₀.symm) hmoved
  · exact absurd rfl hmoved
  · rcases eq_or_ne id i with rfl | hne
    · obtain rfl : job' = job := (Prod.mk.inj (Option.some.inj (hid.symm.trans hi₀))).1
      simp [hk] at hk'
    · exact absurd (QueueState.setStatus_jobs_of_ne hne) hmoved
  · rcases eq_or_ne id i with rfl | hne
    · obtain rfl : job' = job := (Prod.mk.inj (Option.some.inj (hid.symm.trans hi₀))).1
      obtain rfl : key = k := Option.some.inj (hk'.symm.trans hk)
      obtain rfl : st' = st := (Prod.mk.inj (Option.some.inj
        ((QueueState.setStatus_jobs_self hid).symm.trans hi))).2
      simp [QueueState.write]
    · exact absurd (QueueState.setStatus_jobs_of_ne hne) hmoved

/-- No lost update, for a day: once a step has finished a job, whatever steps any jobs take next,
its key reads its `DONE` response or `FAILED` message until `EXPIRATION` seconds after that step,
and nothing after, for as long as no other job's state goes to that key. -/
theorem queueRun_keeps_finished_state (hstep : queueStep p a s = some s₁)
    (hi₀ : s.jobs[i]? = some (job, st₀)) (hst₀ : st₀.finished = false)
    (hi : s₁.jobs[i]? = some (job, st)) (hst : st.finished) (hk : statusKey p job = some k)
    (hr : queueRun p acts s₁ = some s') (hu : (s'.keyHolders p k).length ≤ 1) :
    s'.get k = if s'.now ≤ s.now + expiration then st.processState else none := by
  have hkey := (queueRun_redis_of_finished hr hi hst hk hu).trans
    (queueStep_finishing_write hstep hi₀ hst₀ hi hst hk)
  cases st with
  | completed resp => simp [QueueState.get, hkey, JobStatus.processState]
  | failed msg => simp [QueueState.get, hkey, JobStatus.processState]
  | waiting | active => cases hst

def uploadsBeforeFinish : List QueueAction :=
  [.add ⟨ProcessNames.trackContentUpload, "r1"⟩, .add ⟨"resize", "r2"⟩, .start 0, .start 1]

def uploadsAfterFinish : List QueueAction :=
  [.tick 3600, .fail 1 "func is not a function", .add ⟨ProcessNames.trackContentUpload, "r3"⟩,
    .start 2, .succeed 2 "ok3"]

theorem uploadsBeforeFinish_isSome :
    (queueRun asyncProcessingQueue uploadsBeforeFinish .init).isSome := by
  decide

def uploadsRunning : QueueState :=
  (queueRun asyncProcessingQueue uploadsBeforeFinish .init).get uploadsBeforeFinish_isSome

theorem uploadsFinished_isSome :
    (queueStep asyncProcessingQueue (.succeed 0 "ok") uploadsRunning).isSome := by
  decide

def uploadsFinished : QueueState :=
  (queueStep asyncProcessingQueue (.succeed 0 "ok") uploadsRunning).get uploadsFinished_isSome

theorem uploadsAfter_isSome :
    (queueRun asyncProcessingQueue uploadsAfterFinish uploadsFinished).isSome := by
  decide

theorem first_upload_done_an_hour_later :
    queueStep asyncProcessingQueue (.succeed 0 "ok") uploadsRunning = some uploadsFinished ∧
      uploadsRunning.jobs[0]? = some (⟨ProcessNames.trackContentUpload, "r1"⟩, .active) ∧
      JobStatus.active.finished = false ∧
      uploadsFinished.jobs[0]? = some (⟨ProcessNames.trackContentUpload, "r1"⟩, .completed "ok") ∧
      (JobStatus.completed "ok").finished ∧
      statusKey asyncProcessingQueue ⟨ProcessNames.trackContentUpload, "r1"⟩ =
        some "trackContentUpload:::r1" ∧
      queueRun asyncProcessingQueue uploadsAfterFinish uploadsFinished =
        some ((queueRun asyncProcessingQueue uploadsAfterFinish uploadsFinished).get
          uploadsAfter_isSome) ∧
      (((queueRun asyncProcessingQueue uploadsAfterFinish uploadsFinished).get
          uploadsAfter_isSome).keyHolders asyncProcessingQueue "trackContentUpload:::r1").length ≤ 1 ∧
      ((queueRun asyncProcessingQueue uploadsAfterFinish uploadsFinished).get
          uploadsAfter_isSome).get "trackContentUpload:::r1" =
        if ((queueRun asyncProcessingQueue uploadsAfterFinish uploadsFinished).get
            uploadsAfter_isSome).now ≤ uploadsRunning.now + expiration then
          (JobStatus.completed "ok").processState
        else none :=
  by
  refine ⟨Option.eq_some_of_isSome _, ?hi₀, rfl, ?hi, rfl, ?hk, Option.eq_some_of_isSome _, ?hu,
    queueRun_keeps_finished_state (Option.eq_some_of_isSome _) ?hi₀ rfl ?hi rfl ?hk
      (Option.eq_some_of_isSome _) ?hu⟩ <;> decide

end CreatorNode

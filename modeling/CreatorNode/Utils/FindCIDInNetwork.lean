import CreatorNode.Objects.Rows
import Mathlib.Logic.Function.Basic

namespace CreatorNode

/-- What `GET <endpoint>/file_lookup` gives back. -/
inductive LookupResponse
  /-- the request threw: a timeout, a refused connection, a status other than 2xx -/
  | error
  /-- a response without data -/
  | empty
  /-- a stream whose content hashes to `multihash` -/
  | stream (multihash : Multihash)
  deriving DecidableEq, Repr

/-- What makes the loop stop at a node: `if (resp && resp.data)`. -/
def LookupResponse.hasData : LookupResponse → Bool
  | .stream _ => true
  | _ => false

structure ContentNode where
  endpoint : String
  deriving DecidableEq, Repr

/-- Everything `findCIDInNetwork` gets from outside the node: the node list cached in redis, the
chain's list (`none` when the lookup throws), this node's endpoint, and each node's answer. -/
structure NetworkEnv where
  cachedCNodes : Option (List ContentNode)
  chainCNodes : Option (List ContentNode)
  creatorNodeEndpoint : String
  fileLookup : String → LookupResponse

/-- What `findCIDInNetwork` reads and writes: the multihash of the file at each path (`none` when
there is none), today's `attempted_fs_fixes` set, and, for the proofs, the endpoints it sent a
`file_lookup` request to. -/
structure FixState where
  fs : String → Option Multihash
  attemptedFsFixes : List String
  lookups : List String

/-- `getAllRegisteredCNodes`: the cached list if redis has one, else the chain's content nodes
without this node, `[]` when the lookup throws. -/
def getAllRegisteredCNodes (env : NetworkEnv) : List ContentNode :=
  match env.cachedCNodes with
  | some cnodesList => cnodesList
  | none =>
    match env.chainCNodes with
    | some creatorNodes => creatorNodes.filter (·.endpoint ≠ env.creatorNodeEndpoint)
    | none => []

/-- `getIfAttemptedStateFix`: `SADD` of the path to today's set; `true` when it was there. -/
def getIfAttemptedStateFix (filePath : String) (s : FixState) : Bool × FixState :=
  if filePath ∈ s.attemptedFsFixes then (true, s)
  else (false, { s with attemptedFsFixes := s.attemptedFsFixes ++ [filePath] })

/-- The loop over `creatorNodesFiltered`: the first node that answers with data has its stream
written to `filePath`; the file is unlinked when its multihash is not `cid`, and the loop stops with
`found` set either way. -/
def lookupNodes (filePath cid : String) (fileLookup : String → LookupResponse) :
    List ContentNode → FixState → Bool × FixState
  | [], s => (false, s)
  | node :: rest, s =>
    let s := { s with lookups := s.lookups ++ [node.endpoint] }
    match fileLookup node.endpoint with
    | .stream ipfsHashOnly =>
      let s := { s with fs := Function.update s.fs filePath (some ipfsHashOnly) }
      (true, if cid ≠ ipfsHashOnly then { s with fs := Function.update s.fs filePath none } else s)
    | _ => lookupNodes filePath cid fileLookup rest s

/-- `findCIDInNetwork(filePath, cid, logger, libs, trackId, excludeList)`; `none` is the bare
`return` of the code. -/
def findCIDInNetwork (env : NetworkEnv) (filePath cid : String) (excludeList : List String)
    (s : FixState) : Option Bool × FixState :=
  match getIfAttemptedStateFix filePath s with
  | (true, s) => (none, s)
  | (false, s) =>
    let creatorNodes := getAllRegisteredCNodes env
    if creatorNodes.isEmpty then (none, s)
    else
      let creatorNodesFiltered := creatorNodes.filter fun c => !excludeList.contains c.endpoint
      let r := lookupNodes filePath cid env.fileLookup creatorNodesFiltered s
      (some r.1, r.2)

def firstServed (fileLookup : String → LookupResponse) : List ContentNode → Option Multihash
  | [] => none
  | node :: rest =>
    match fileLookup node.endpoint with
    | .stream h => some h
    | _ => firstServed fileLookup rest

variable {filePath cid : String} {fileLookup : String → LookupResponse} {nodes : List ContentNode}
  {s : FixState}

theorem lookupNodes_lookups :
    (lookupNodes filePath cid fileLookup nodes s).2.lookups = s.lookups ++
      (nodes.take (nodes.findIdx (fun c => (fileLookup c.endpoint).hasData) + 1)).map (·.endpoint) := by
  induction nodes generalizing s with
  | nil => simp [lookupNodes]
  | cons node rest ih =>
    cases hresp : fileLookup node.endpoint <;>
      simp [lookupNodes, List.findIdx_cons, hresp, LookupResponse.hasData, ih,
        apply_ite FixState.lookups]

theorem lookupNodes_result :
    (lookupNodes filePath cid fileLookup nodes s).1 = (firstServed fileLookup nodes).isSome ∧
      (lookupNodes filePath cid fileLookup nodes s).2.fs =
        match firstServed fileLookup nodes with
        | some h => Function.update s.fs filePath (if cid = h then some h else none)
        | none => s.fs := by
  induction nodes generalizing s with
  | nil => simp [lookupNodes, firstServed]
  | cons node rest ih =>
    simp only [lookupNodes, firstServed]
    split
    · rename_i h _
      refine ⟨rfl, ?_⟩
      by_cases hc : cid = h <;> simp [hc]
    · exact ih

theorem firstServed_isSome_iff :
    (firstServed fileLookup nodes).isSome ↔ ∃ n ∈ nodes, ∃ h, fileLookup n.endpoint = .stream h := by
  induction nodes with
  | nil => simp [firstServed]
  | cons node rest ih =>
    simp only [firstServed, List.mem_cons, exists_eq_or_imp]
    split <;> simp_all

variable {env : NetworkEnv} {excludeList : List String}

def creatorNodesFiltered (env : NetworkEnv) (excludeList : List String) : List ContentNode :=
  (getAllRegisteredCNodes env).filter fun c => !excludeList.contains c.endpoint

theorem findCIDInNetwork_of_fresh (hfresh : filePath ∉ s.attemptedFsFixes)
    (hnodes : getAllRegisteredCNodes env ≠ []) :
    findCIDInNetwork env filePath cid excludeList s =
      let r := lookupNodes filePath cid env.fileLookup (creatorNodesFiltered env excludeList)
        { s with attemptedFsFixes := s.attemptedFsFixes ++ [filePath] }
      (some r.1, r.2) := by
  simp [findCIDInNetwork, getIfAttemptedStateFix, hfresh, hnodes, creatorNodesFiltered]

/-- The `file_lookup` requests of a call: none when the path was already attempted today or no node
is registered, and otherwise the registered nodes not excluded, in order, up to and including the
first that answers with data. No request goes to an endpoint of `excludeList`. -/
theorem findCIDInNetwork_skips_excluded :
    ∃ pre, (findCIDInNetwork env filePath cid excludeList s).2.lookups = s.lookups ++ pre ∧
      (∀ e ∈ pre, e ∉ excludeList) ∧
      pre = if filePath ∈ s.attemptedFsFixes then [] else
        ((creatorNodesFiltered env excludeList).take ((creatorNodesFiltered env excludeList).findIdx
          (fun c => (env.fileLookup c.endpoint).hasData) + 1)).map (·.endpoint) := by
  refine ⟨_, ?_, fun e he => ?_, rfl⟩
  · by_cases hfresh : filePath ∈ s.attemptedFsFixes
    · simp [findCIDInNetwork, getIfAttemptedStateFix, hfresh]
    by_cases hnodes : getAllRegisteredCNodes env = []
    · simp [findCIDInNetwork, getIfAttemptedStateFix, hfresh, hnodes, creatorNodesFiltered]
    rw [findCIDInNetwork_of_fresh hfresh hnodes, if_neg hfresh]
    exact lookupNodes_lookups
  · split at he
    · cases he
    · obtain ⟨c, hc, rfl⟩ := List.mem_map.mp he
      simpa [creatorNodesFiltered] using (List.mem_filter.mp (List.mem_of_mem_take hc)).2

def twoNodeEnv : NetworkEnv :=
  ⟨some [⟨"a"⟩, ⟨"b"⟩], none, "self", fun e => if e = "a" then .stream "QmB" else .stream "QmA"⟩

/-- Past the gate, the call reports the file found whenever a node it may ask serves content
hashing to `cid`. -/
theorem findCIDInNetwork_true_of_served (hfresh : filePath ∉ s.attemptedFsFixes)
    (hserved : ∃ c ∈ getAllRegisteredCNodes env, c.endpoint ∉ excludeList ∧
      env.fileLookup c.endpoint = .stream cid) :
    (findCIDInNetwork env filePath cid excludeList s).1 = some true := by
  obtain ⟨c, hc, hex, hcid⟩ := hserved
  rw [findCIDInNetwork_of_fresh hfresh (List.ne_nil_of_mem hc)]
  simp only [Option.some.injEq, lookupNodes_result.1]
  exact firstServed_isSome_iff.mpr
    ⟨c, List.mem_filter.mpr ⟨hc, by simpa using hex⟩, cid, hcid⟩

theorem second_node_serving_cid_reported_found :
    "/f" ∉ ([] : List String) ∧
      (∃ c ∈ getAllRegisteredCNodes twoNodeEnv, c.endpoint ∉ ([] : List String) ∧
        twoNodeEnv.fileLookup c.endpoint = .stream "QmA") ∧
      (findCIDInNetwork twoNodeEnv "/f" "QmA" [] ⟨fun _ => none, [], []⟩).1 = some true := by
  have hfresh : "/f" ∉ ([] : List String) := List.not_mem_nil _
  have hserved : ∃ c ∈ getAllRegisteredCNodes twoNodeEnv, c.endpoint ∉ ([] : List String) ∧
      twoNodeEnv.fileLookup c.endpoint = .stream "QmA" :=
    ⟨⟨"b"⟩, by decide, List.not_mem_nil _, by decide⟩
  exact ⟨hfresh, hserved, findCIDInNetwork_true_of_served hfresh hserved⟩

/-- When the call reports the file found, the file at `filePath` holds `cid` if the first node that
answered with data served `cid`, and is gone otherwise. -/
theorem findCIDInNetwork_found_file (h : (findCIDInNetwork env filePath cid excludeList s).1 = some true) :
    (findCIDInNetwork env filePath cid excludeList s).2.fs filePath =
      if firstServed env.fileLookup (creatorNodesFiltered env excludeList) = some cid then some cid
      else none := by
  have hfresh : filePath ∉ s.attemptedFsFixes := fun hf => by
    simp [findCIDInNetwork, getIfAttemptedStateFix, hf] at h
  have hnodes : getAllRegisteredCNodes env ≠ [] := fun hn => by
    simp [findCIDInNetwork, getIfAttemptedStateFix, hfresh, hn] at h
  rw [findCIDInNetwork_of_fresh hfresh hnodes] at h ⊢
  simp only [Option.some.injEq, lookupNodes_result.1] at h
  simp only [lookupNodes_result.2]
  obtain ⟨hh, hs⟩ := Option.isSome_iff_exists.mp h
  rw [hs]
  by_cases hc : cid = hh
  · simp [hc]
  · simp [hc, Ne.symm hc]

theorem mismatched_content_found_file_gone :
    (findCIDInNetwork twoNodeEnv "/f" "QmA" [] ⟨fun _ => none, [], []⟩).1 = some true ∧
      (findCIDInNetwork twoNodeEnv "/f" "QmA" [] ⟨fun _ => none, [], []⟩).2.fs "/f" =
        if firstServed twoNodeEnv.fileLookup (creatorNodesFiltered twoNodeEnv []) = some "QmA" then
          some "QmA" else none := by
  have h : (findCIDInNetwork twoNodeEnv "/f" "QmA" [] ⟨fun _ => none, [], []⟩).1 = some true := by
    decide
  exact ⟨h, findCIDInNetwork_found_file h⟩

/-- The call writes `a`'s content, finds it is not `QmA`, unlinks it, and still reports the file
found, without asking `b`. -/
theorem mismatched_content_reported_found :
    (findCIDInNetwork twoNodeEnv "/f" "QmA" [] ⟨fun _ => none, [], []⟩).1 = some true ∧
      (findCIDInNetwork twoNodeEnv "/f" "QmA" [] ⟨fun _ => none, [], []⟩).2.fs "/f" = none ∧
      (findCIDInNetwork twoNodeEnv "/f" "QmA" [] ⟨fun _ => none, [], []⟩).2.lookups = ["a"] := by
  decide

theorem lookupNodes_attemptedFsFixes :
    (lookupNodes filePath cid fileLookup nodes s).2.attemptedFsFixes = s.attemptedFsFixes := by
  induction nodes generalizing s with
  | nil => rfl
  | cons node rest ih =>
    simp only [lookupNodes]
    split
    · split <;> rfl
    · exact ih

theorem findCIDInNetwork_of_attempted (h : filePath ∈ s.attemptedFsFixes) :
    findCIDInNetwork env filePath cid excludeList s = (none, s) := by
  simp [findCIDInNetwork, getIfAttemptedStateFix, h]

theorem findCIDInNetwork_fs_of_ne {p : String} (hp : p ≠ filePath) :
    (findCIDInNetwork env filePath cid excludeList s).2.fs p = s.fs p := by
  by_cases hfresh : filePath ∈ s.attemptedFsFixes
  · rw [findCIDInNetwork_of_attempted hfresh]
  by_cases hnodes : getAllRegisteredCNodes env = []
  · simp [findCIDInNetwork, getIfAttemptedStateFix, hfresh, hnodes]
  rw [findCIDInNetwork_of_fresh hfresh hnodes]
  dsimp only
  rw [lookupNodes_result.2]
  split <;> simp [Function.update_noteq hp]

theorem findCIDInNetwork_attemptedFsFixes :
    filePath ∈ (findCIDInNetwork env filePath cid excludeList s).2.attemptedFsFixes ∧
      s.attemptedFsFixes ⊆ (findCIDInNetwork env filePath cid excludeList s).2.attemptedFsFixes := by
  by_cases hfresh : filePath ∈ s.attemptedFsFixes
  · rw [findCIDInNetwork_of_attempted hfresh]
    exact ⟨hfresh, List.Subset.refl _⟩
  by_cases hnodes : getAllRegisteredCNodes env = []
  · simp [findCIDInNetwork, getIfAttemptedStateFix, hfresh, hnodes]
  rw [findCIDInNetwork_of_fresh hfresh hnodes]
  simp [lookupNodes_attemptedFsFixes]

/-- A sequence of `findCIDInNetwork` calls, each with its own network, path, `cid` and exclude list;
`paths` lists the paths called, in order. -/
inductive FixRuns : List String → FixState → FixState → Prop
  | nil (s : FixState) : FixRuns [] s s
  | cons {s s' : FixState} {paths : List String} (env : NetworkEnv) (filePath cid : String)
      (excludeList : List String) :
      FixRuns paths (findCIDInNetwork env filePath cid excludeList s).2 s' →
      FixRuns (filePath :: paths) s s'

variable {paths : List String} {s₀ : FixState} {p : String}

theorem FixRuns.attemptedFsFixes_subset (h : FixRuns paths s₀ s) :
    s₀.attemptedFsFixes ⊆ s.attemptedFsFixes := by
  induction h with
  | nil => exact List.Subset.refl _
  | cons _ _ _ _ _ ih => exact List.Subset.trans findCIDInNetwork_attemptedFsFixes.2 ih

/-- Over every sequence of calls, the file at a path changes only in a call for that path made
while the path was not yet in today's set: a path no call names keeps its file, and so does a path
already attempted when the sequence starts. -/
theorem FixRuns.file_untouched (h : FixRuns paths s₀ s)
    (hp : p ∉ paths ∨ p ∈ s₀.attemptedFsFixes) : s.fs p = s₀.fs p := by
  induction h with
  | nil => rfl
  | @cons s₁ _ _ env filePath cid excludeList _ ih =>
    have hstep : (findCIDInNetwork env filePath cid excludeList s₁).2.fs p = s₁.fs p := by
      by_cases he : p = filePath
      · subst he
        rcases hp with hp | hp
        · exact absurd (List.mem_cons_self _ _) hp
        · rw [findCIDInNetwork_of_attempted hp]
      · exact findCIDInNetwork_fs_of_ne he
    refine (ih ?_).trans hstep
    rcases hp with hp | hp
    · exact .inl fun hm => hp (List.mem_cons_of_mem _ hm)
    · exact .inr (findCIDInNetwork_attemptedFsFixes.2 hp)

theorem fix_leaves_other_path :
    ∃ s, FixRuns ["/f"] ⟨fun _ => none, [], []⟩ s ∧ ("/g" ∉ ["/f"] ∨ "/g" ∈ ([] : List String)) ∧
      s.fs "/g" = none := by
  have hrun : FixRuns ["/f"] ⟨fun _ => none, [], []⟩ _ := .cons twoNodeEnv "/f" "QmA" [] (.nil _)
  have hp : "/g" ∉ ["/f"] ∨ "/g" ∈ ([] : List String) := .inl (by decide)
  exact ⟨_, hrun, hp, hrun.file_untouched hp⟩

/-- After a call for `filePath`, whatever calls follow, every later call for `filePath` returns at
the gate, sending no request and changing nothing: a node searches the network for a path at most
once a day. -/
theorem findCIDInNetwork_searches_path_once {env' : NetworkEnv} {cid' : String}
    {excludeList' : List String}
    (h : FixRuns paths (findCIDInNetwork env filePath cid excludeList s₀).2 s) :
    findCIDInNetwork env' filePath cid' excludeList' s = (none, s) :=
  findCIDInNetwork_of_attempted (h.attemptedFsFixes_subset findCIDInNetwork_attemptedFsFixes.1)

theorem second_fix_of_path_returns_at_gate :
    FixRuns [] (findCIDInNetwork twoNodeEnv "/f" "QmA" [] ⟨fun _ => none, [], []⟩).2
        (findCIDInNetwork twoNodeEnv "/f" "QmA" [] ⟨fun _ => none, [], []⟩).2 ∧
      findCIDInNetwork twoNodeEnv "/f" "QmB" []
          (findCIDInNetwork twoNodeEnv "/f" "QmA" [] ⟨fun _ => none, [], []⟩).2 =
        (none, (findCIDInNetwork twoNodeEnv "/f" "QmA" [] ⟨fun _ => none, [], []⟩).2) :=
  ⟨.nil _, findCIDInNetwork_searches_path_once (.nil _)⟩

end CreatorNode

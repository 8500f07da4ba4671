import CreatorNode.Objects.Rows
import Mathlib.Data.List.Nodup

namespace CreatorNode

open Row

structure CNodeUser where
  walletPublicKey : Wallet
  cnodeUserUUID : UUID
  clock : Int
  latestBlockNumber : Int
  lastLogin : Nat
  createdAt : Nat
  deriving DecidableEq, Repr

/-- The columns `CNodeUser.update` writes on a sync: `lastLogin`, `latestBlockNumber`, `clock` and
`createdAt`, all taken from the exported user. -/
def CNodeUser.refresh (r : CNodeUser) (lastLogin : Nat) (latestBlockNumber clock : Int)
    (createdAt : Nat) : CNodeUser :=
  { r with lastLogin, latestBlockNumber, clock, createdAt }

/-- The `CNodeUsers` table with its keys: `cnodeUserUUID` is the primary key and `walletPublicKey`
is unique, so no value of this type can hold two rows for one user. -/
structure CNodeUserTable where
  rows : List CNodeUser
  uuids_nodup : (rows.map (·.cnodeUserUUID)).Nodup
  wallets_nodup : (rows.map (·.walletPublicKey)).Nodup

namespace CNodeUserTable

variable {t : CNodeUserTable} {w w' : Wallet} {r r' : CNodeUser}

def find (t : CNodeUserTable) (w : Wallet) : Option CNodeUser :=
  t.rows.find? (·.walletPublicKey = w)

def uuids (t : CNodeUserTable) : List UUID :=
  t.rows.map (·.cnodeUserUUID)

def update (t : CNodeUserTable) (w : Wallet) (lastLogin : Nat) (latestBlockNumber clock : Int)
    (createdAt : Nat) : CNodeUserTable where
  rows := t.rows.map fun r =>
    if r.walletPublicKey = w then r.refresh lastLogin latestBlockNumber clock createdAt else r
  uuids_nodup := by
    rw [List.map_map]
    convert t.uuids_nodup using 2
    funext r
    by_cases h : r.walletPublicKey = w <;> simp [h, CNodeUser.refresh]
  wallets_nodup := by
    rw [List.map_map]
    convert t.wallets_nodup using 2
    funext r
    by_cases h : r.walletPublicKey = w <;> simp [h, CNodeUser.refresh]

/-- `numRowsUpdated` of `CNodeUser.update(..., { where: { walletPublicKey } })`. -/
def numRowsUpdated (t : CNodeUserTable) (w : Wallet) : Nat :=
  (t.rows.map (·.walletPublicKey)).count w

def insert (t : CNodeUserTable) (r : CNodeUser) (hw : t.find r.walletPublicKey = none)
    (hu : r.cnodeUserUUID ∉ t.uuids) : CNodeUserTable where
  rows := t.rows ++ [r]
  uuids_nodup := by
    simpa [List.nodup_append] using
      ⟨t.uuids_nodup, fun x hx h => hu (h ▸ List.mem_map_of_mem _ hx)⟩
  wallets_nodup := by
    simp only [find, List.find?_eq_none, decide_eq_true_eq] at hw
    simpa [List.nodup_append] using ⟨t.wallets_nodup, fun x hx h => hw x hx h⟩

def erase (t : CNodeUserTable) (w : Wallet) : CNodeUserTable where
  rows := t.rows.filter (·.walletPublicKey ≠ w)
  uuids_nodup := (List.filter_sublist _).map _ |>.nodup t.uuids_nodup
  wallets_nodup := (List.filter_sublist _).map _ |>.nodup t.wallets_nodup

theorem find_wallet (h : t.find w = some r) : r.walletPublicKey = w := by
  simpa using List.find?_some h

theorem mem_of_find (h : t.find w = some r) : r ∈ t.rows :=
  List.mem_of_find?_eq_some h

theorem mem_uuids_of_find (h : t.find w = some r) : r.cnodeUserUUID ∈ t.uuids :=
  List.mem_map_of_mem _ (mem_of_find h)

theorem find_eq_of_mem (h : r ∈ t.rows) : t.find r.walletPublicKey = some r := by
  obtain ⟨r', hr'⟩ := Option.isSome_iff_exists.mp
    (List.find?_isSome.mpr ⟨r, h, by simp⟩ : (t.find r.walletPublicKey).isSome)
  have := List.inj_on_of_nodup_map t.wallets_nodup (mem_of_find hr') h (find_wallet hr')
  exact this ▸ hr'

theorem uuid_ne_of_find (h : t.find w = some r) (h' : t.find w' = some r') (hw : w ≠ w') :
    r.cnodeUserUUID ≠ r'.cnodeUserUUID := fun hu =>
  hw <| find_wallet h ▸ find_wallet h' ▸
    congrArg _ (List.inj_on_of_nodup_map t.uuids_nodup (mem_of_find h) (mem_of_find h') hu)

theorem find_update (a : Nat) (b c : Int) (d : Nat) :
    (t.update w a b c d).find w' = (t.find w').map fun r =>
      if r.walletPublicKey = w then r.refresh a b c d else r := by
  simp only [find, update, List.find?_map]
  congr 2
  funext r
  by_cases h : r.walletPublicKey = w <;> simp [h, CNodeUser.refresh]

theorem find_insert (hw : t.find r.walletPublicKey = none) (hu : r.cnodeUserUUID ∉ t.uuids) :
    (t.insert r hw hu).find w = if r.walletPublicKey = w then some r else t.find w := by
  by_cases h : r.walletPublicKey = w
  · subst h
    simp [find, insert, show t.rows.find? _ = none from hw]
  · simp [find, insert, h]

theorem find_erase : (t.erase w).find w' = if w' = w then none else t.find w' := by
  by_cases h : w' = w
  · subst h; simp [find, erase, List.find?_filter]
  · simp only [find, erase, List.find?_filter, h, if_false]
    congr 1
    funext a
    by_cases ha : a.walletPublicKey = w' <;> simp [ha, h]

theorem ext_rows {t t' : CNodeUserTable} (h : t.rows = t'.rows) : t = t' := by
  cases t; cases t'; cases h; rfl

theorem erase_update (a : Nat) (b c : Int) (d : Nat) : (t.update w a b c d).erase w = t.erase w := by
  refine ext_rows ?_
  have hp : ((fun r : CNodeUser => decide (r.walletPublicKey ≠ w)) ∘ fun r =>
      if r.walletPublicKey = w then r.refresh a b c d else r) = fun r => decide (r.walletPublicKey ≠ w) := by
    funext r; by_cases h : r.walletPublicKey = w <;> simp [h, CNodeUser.refresh]
  simp only [erase, update, List.filter_map, hp]
  conv_rhs => rw [← List.map_id (List.filter _ t.rows)]
  refine List.map_congr_left fun r hr => ?_
  have : r.walletPublicKey ≠ w := by simpa using List.of_mem_filter hr
  simp [this]

theorem erase_insert (hw : t.find r.walletPublicKey = none) (hu : r.cnodeUserUUID ∉ t.uuids)
    (hr : r.walletPublicKey = w) : (t.insert r hw hu).erase w = t := by
  refine ext_rows ?_
  subst hr
  simp only [find, List.find?_eq_none, decide_eq_true_eq] at hw
  simpa [erase, insert, List.filter_eq_self] using hw

theorem numRowsUpdated_of_find (h : t.find w = some r) : t.numRowsUpdated w = 1 :=
  List.count_eq_one_of_mem t.wallets_nodup (find_wallet h ▸ List.mem_map_of_mem _ (mem_of_find h))

end CNodeUserTable

structure DB where
  cnodeUsers : CNodeUserTable
  clockRecords : List ClockRecord
  files : List File
  tracks : List Track
  audiusUsers : List AudiusUser

structure Owned where
  clockRecords : List ClockRecord
  files : List File
  tracks : List Track
  audiusUsers : List AudiusUser
  deriving DecidableEq, Repr

namespace Owned

def Sublist (o o' : Owned) : Prop :=
  o.clockRecords.Sublist o'.clockRecords ∧ o.files.Sublist o'.files ∧
    o.tracks.Sublist o'.tracks ∧ o.audiusUsers.Sublist o'.audiusUsers

theorem Sublist.refl (o : Owned) : o.Sublist o :=
  ⟨.refl _, .refl _, .refl _, .refl _⟩

theorem Sublist.trans {o₁ o₂ o₃ : Owned} (h₁ : o₁.Sublist o₂) (h₂ : o₂.Sublist o₃) : o₁.Sublist o₃ :=
  ⟨h₁.1.trans h₂.1, h₁.2.1.trans h₂.2.1, h₁.2.2.1.trans h₂.2.2.1, h₁.2.2.2.trans h₂.2.2.2⟩

end Owned

private theorem le_foldr_max {l : List Nat} {u : Nat} (h : u ∈ l) : u ≤ l.foldr max 0 := by
  induction l with
  | nil => cases h
  | cons a l ih =>
    rcases List.mem_cons.mp h with rfl | h
    · exact le_max_left _ _
    · exact (ih h).trans (le_max_right _ _)

namespace DB

variable {db : DB} {w w' : Wallet} {u x : UUID} {r : CNodeUser}

def empty : DB :=
  ⟨⟨[], List.nodup_nil, List.nodup_nil⟩, [], [], [], []⟩

def uuids (db : DB) : List UUID :=
  db.cnodeUsers.uuids ++ db.clockRecords.map (·.cnodeUserUUID) ++ db.files.map (·.cnodeUserUUID)
    ++ db.tracks.map (·.cnodeUserUUID) ++ db.audiusUsers.map (·.cnodeUserUUID)

/-- A `cnodeUserUUID` that no row of the database carries: what the random default of a created
`CNodeUser` row stands for. -/
def freshUUID (db : DB) : UUID :=
  db.uuids.foldr max 0 + 1

theorem lt_freshUUID (h : u ∈ db.uuids) : u < db.freshUUID :=
  Nat.lt_succ_of_le (le_foldr_max h)

theorem freshUUID_not_mem_cnodeUsers : db.freshUUID ∉ db.cnodeUsers.uuids := fun h =>
  (@lt_freshUUID db _ (by simp [uuids, h])).false

def owned (db : DB) (u : UUID) : Owned :=
  ⟨ownedBy db.clockRecords u, ownedBy db.files u, ownedBy db.tracks u, ownedBy db.audiusUsers u⟩

def rowsOf (db : DB) (w : Wallet) : Option (CNodeUser × Owned) :=
  (db.cnodeUsers.find w).map fun r => (r, db.owned r.cnodeUserUUID)

def clockOf (db : DB) (w : Wallet) : Int :=
  ((db.cnodeUsers.find w).map (·.clock)).getD (-1)

def clockRecordsOf (db : DB) (w : Wallet) : List ClockRecord :=
  ((db.rowsOf w).map (·.2.clockRecords)).getD []

theorem owned_ne_of_fresh (h : u ∈ db.uuids) : u ≠ db.freshUUID :=
  (lt_freshUUID h).ne

@[simp]
theorem owned_freshUUID : db.owned db.freshUUID = ⟨[], [], [], []⟩ := by
  have hfresh : ∀ {α} [Row α] (t : List α), (∀ r ∈ t, Row.cnodeUserUUID r ∈ db.uuids) →
      ownedBy t db.freshUUID = [] := fun t ht => by
    simp only [ownedBy, List.filter_eq_nil_iff, decide_eq_true_eq]
    exact fun r hr => owned_ne_of_fresh (ht r hr)
  simp only [owned, Owned.mk.injEq]
  refine ⟨hfresh _ fun r hr => ?_, hfresh _ fun r hr => ?_, hfresh _ fun r hr => ?_,
    hfresh _ fun r hr => ?_⟩ <;>
    simp only [uuids, List.mem_append, List.mem_map, ClockRecord.row_uuid, File.row_uuid,
      Track.row_uuid, AudiusUser.row_uuid]
  · exact .inl (.inl (.inl (.inr ⟨r, hr, rfl⟩)))
  · exact .inl (.inl (.inr ⟨r, hr, rfl⟩))
  · exact .inl (.inr ⟨r, hr, rfl⟩)
  · exact .inr ⟨r, hr, rfl⟩

/-- Modelled from the spec: `DBManager.deleteAllCNodeUserDataFromDB` is not among the sources. It
deletes the wallet's `CNodeUser` row and, in cascade, every row carrying its `cnodeUserUUID`; a
wallet with no row is left alone. -/
def deleteAllCNodeUserDataFromDB (db : DB) (lookupWallet : Option Wallet) : DB :=
  match lookupWallet.bind db.cnodeUsers.find with
  | none => db
  | some r =>
    { cnodeUsers := db.cnodeUsers.erase r.walletPublicKey
      clockRecords := eraseOwned db.clockRecords r.cnodeUserUUID
      files := eraseOwned db.files r.cnodeUserUUID
      tracks := eraseOwned db.tracks r.cnodeUserUUID
      audiusUsers := eraseOwned db.audiusUsers r.cnodeUserUUID }

@[simp]
theorem deleteAll_none : db.deleteAllCNodeUserDataFromDB none = db := rfl

theorem deleteAll_of_find_none (h : db.cnodeUsers.find w = none) :
    db.deleteAllCNodeUserDataFromDB (some w) = db := by
  simp [deleteAllCNodeUserDataFromDB, h]

theorem deleteAll_of_find (h : db.cnodeUsers.find w = some r) :
    db.deleteAllCNodeUserDataFromDB (some w) =
      { cnodeUsers := db.cnodeUsers.erase w
        clockRecords := eraseOwned db.clockRecords r.cnodeUserUUID
        files := eraseOwned db.files r.cnodeUserUUID
        tracks := eraseOwned db.tracks r.cnodeUserUUID
        audiusUsers := eraseOwned db.audiusUsers r.cnodeUserUUID } := by
  simp [deleteAllCNodeUserDataFromDB, h, CNodeUserTable.find_wallet h]

theorem find_deleteAll :
    (db.deleteAllCNodeUserDataFromDB (some w)).cnodeUsers.find w' =
      if w' = w then none else db.cnodeUsers.find w' := by
  cases h : db.cnodeUsers.find w with
  | none => by_cases hw : w' = w <;> simp [deleteAll_of_find_none h, hw, h]
  | some r => simp [deleteAll_of_find h, CNodeUserTable.find_erase]

theorem owned_deleteAll_of_ne (h : db.cnodeUsers.find w = some r) (hx : x ≠ r.cnodeUserUUID) :
    (db.deleteAllCNodeUserDataFromDB (some w)).owned x = db.owned x := by
  simp [deleteAll_of_find h, owned, ownedBy_eraseOwned_of_ne (Ne.symm hx)]

theorem rowsOf_deleteAll :
    (db.deleteAllCNodeUserDataFromDB (some w)).rowsOf w' =
      if w' = w then none else db.rowsOf w' := by
  by_cases hw : w' = w
  · simp [rowsOf, find_deleteAll, hw]
  · simp only [rowsOf, find_deleteAll, hw, if_false]
    cases h' : db.cnodeUsers.find w' with
    | none => rfl
    | some r' =>
      cases h : db.cnodeUsers.find w with
      | none => simp [deleteAll_of_find_none h]
      | some r => simp [owned_deleteAll_of_ne h (CNodeUserTable.uuid_ne_of_find h' h hw)]

theorem owned_deleteAll_sublist (l : Option Wallet) :
    ((db.deleteAllCNodeUserDataFromDB l).owned x).Sublist (db.owned x) := by
  unfold deleteAllCNodeUserDataFromDB
  split
  · exact .refl _
  · simp only [owned, ownedBy]
    exact ⟨eraseOwned_sublist.filter _, eraseOwned_sublist.filter _, eraseOwned_sublist.filter _,
      eraseOwned_sublist.filter _⟩

theorem deleteAll_deleteAll :
    (db.deleteAllCNodeUserDataFromDB (some w)).deleteAllCNodeUserDataFromDB (some w) =
      db.deleteAllCNodeUserDataFromDB (some w) :=
  deleteAll_of_find_none (by simp [find_deleteAll])

/-- The foreign keys of the schema hold: every `cnodeUserUUID` the database carries, in any table,
is that of a `CNodeUser` row. -/
def KeysResolve (db : DB) : Prop :=
  ∀ x ∈ db.uuids, x ∈ db.cnodeUsers.uuids

instance : DecidablePred KeysResolve := fun db =>
  inferInstanceAs (Decidable (∀ x ∈ db.uuids, x ∈ db.cnodeUsers.uuids))

theorem keysResolve_empty : empty.KeysResolve := by
  simp [KeysResolve, empty, uuids, CNodeUserTable.uuids]

theorem KeysResolve.owned_eq (h : db.KeysResolve) (hx : x ∉ db.cnodeUsers.uuids) :
    db.owned x = ⟨[], [], [], []⟩ := by
  simp only [owned, Owned.mk.injEq, ownedBy, List.filter_eq_nil_iff, decide_eq_true_eq]
  refine ⟨fun r hr he => hx (he ▸ h _ ?_), fun r hr he => hx (he ▸ h _ ?_),
    fun r hr he => hx (he ▸ h _ ?_), fun r hr he => hx (he ▸ h _ ?_)⟩ <;>
    simp only [uuids, List.mem_append, List.mem_map, ClockRecord.row_uuid, File.row_uuid,
      Track.row_uuid, AudiusUser.row_uuid]
  · exact .inl (.inl (.inl (.inr ⟨r, hr, rfl⟩)))
  · exact .inl (.inl (.inr ⟨r, hr, rfl⟩))
  · exact .inl (.inr ⟨r, hr, rfl⟩)
  · exact .inr ⟨r, hr, rfl⟩

theorem keysResolve_of_owned (h : ∀ x ∉ db.cnodeUsers.uuids, db.owned x = ⟨[], [], [], []⟩) :
    db.KeysResolve := by
  intro x hmem
  by_contra hn
  have ho := h x hn
  simp only [owned, Owned.mk.injEq, ownedBy, List.filter_eq_nil_iff, decide_eq_true_eq,
    ClockRecord.row_uuid, File.row_uuid, Track.row_uuid, AudiusUser.row_uuid] at ho
  simp only [uuids, List.mem_append, List.mem_map] at hmem
  rcases hmem with (((hc | ⟨r, hr, rfl⟩) | ⟨r, hr, rfl⟩) | ⟨r, hr, rfl⟩) | ⟨r, hr, rfl⟩
  · exact hn hc
  · exact ho.1 r hr rfl
  · exact ho.2.1 r hr rfl
  · exact ho.2.2.1 r hr rfl
  · exact ho.2.2.2 r hr rfl

theorem mem_uuids_erase (h : db.cnodeUsers.find w = some r) (hx : x ∈ db.cnodeUsers.uuids)
    (hne : x ≠ r.cnodeUserUUID) : x ∈ (db.cnodeUsers.erase w).uuids := by
  obtain ⟨r', hr', rfl⟩ := List.mem_map.mp hx
  have hw : r'.walletPublicKey ≠ w := fun hw =>
    hne (congrArg _ (Option.some.inj ((hw ▸ CNodeUserTable.find_eq_of_mem hr').symm.trans h)))
  exact List.mem_map_of_mem _ (List.mem_filter.mpr ⟨hr', by simpa using hw⟩)

theorem KeysResolve.deleteAll (h : db.KeysResolve) (l : Option Wallet) :
    (db.deleteAllCNodeUserDataFromDB l).KeysResolve := by
  rcases l with _ | w
  · exact h
  cases hw : db.cnodeUsers.find w with
  | none => rwa [deleteAll_of_find_none hw]
  | some r =>
    refine keysResolve_of_owned fun x hx => ?_
    by_cases hxr : x = r.cnodeUserUUID
    · subst hxr
      simp [deleteAll_of_find hw, owned, ownedBy_eraseOwned_self]
    · rw [owned_deleteAll_of_ne hw hxr]
      refine h.owned_eq fun hm => hx ?_
      rw [deleteAll_of_find hw]
      exact mem_uuids_erase hw hm hxr

end DB

end CreatorNode

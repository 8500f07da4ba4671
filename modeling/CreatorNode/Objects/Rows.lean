import Mathlib.Data.List.Basic

namespace CreatorNode

abbrev Wallet := String

abbrev Multihash := String

-- A `cnodeUserUUID`. The node generates a fresh one when it creates a `CNodeUser` row; the model
-- only needs that fresh values are distinct from the ones in use, so they are numbers.
abbrev UUID := Nat

structure ClockRecord where
  cnodeUserUUID : UUID
  clock : Int
  sourceTable : String
  deriving DecidableEq, Repr

structure File where
  cnodeUserUUID : UUID
  multihash : Multihash
  storagePath : String
  type : String
  fileName : Option String
  trackBlockchainId : Option Nat
  skipped : Bool
  deriving DecidableEq, Repr

structure Track where
  cnodeUserUUID : UUID
  blockchainId : Nat
  metadataFileUUID : String
  deriving DecidableEq, Repr

structure AudiusUser where
  cnodeUserUUID : UUID
  blockchainId : Nat
  metadataFileUUID : String
  deriving DecidableEq, Repr

/-- The rows of the four tables that belong to a user through their `cnodeUserUUID` column. -/
class Row (α : Type) where
  cnodeUserUUID : α → UUID
  withCNodeUserUUID : α → UUID → α
  cnodeUserUUID_with : ∀ r u, cnodeUserUUID (withCNodeUserUUID r u) = u

instance : Row ClockRecord := ⟨(·.cnodeUserUUID), fun r u => { r with cnodeUserUUID := u }, fun _ _ => rfl⟩
instance : Row File := ⟨(·.cnodeUserUUID), fun r u => { r with cnodeUserUUID := u }, fun _ _ => rfl⟩
instance : Row Track := ⟨(·.cnodeUserUUID), fun r u => { r with cnodeUserUUID := u }, fun _ _ => rfl⟩
instance : Row AudiusUser := ⟨(·.cnodeUserUUID), fun r u => { r with cnodeUserUUID := u }, fun _ _ => rfl⟩

@[simp] theorem ClockRecord.row_uuid (r : ClockRecord) : Row.cnodeUserUUID r = r.cnodeUserUUID := rfl
@[simp] theorem File.row_uuid (r : File) : Row.cnodeUserUUID r = r.cnodeUserUUID := rfl
@[simp] theorem Track.row_uuid (r : Track) : Row.cnodeUserUUID r = r.cnodeUserUUID := rfl
@[simp] theorem AudiusUser.row_uuid (r : AudiusUser) : Row.cnodeUserUUID r = r.cnodeUserUUID := rfl

namespace Row

variable {α : Type} [Row α] {t t₁ t₂ rows : List α} {u x : UUID}

attribute [simp] cnodeUserUUID_with

/-- `rows.map((row) => ({ ...row, cnodeUserUUID }))`: exported rows keyed by the local user. -/
def rekey (rows : List α) (u : UUID) : List α :=
  rows.map (withCNodeUserUUID · u)

def ownedBy (t : List α) (u : UUID) : List α :=
  t.filter (cnodeUserUUID · = u)

def eraseOwned (t : List α) (u : UUID) : List α :=
  t.filter (cnodeUserUUID · ≠ u)

@[simp]
theorem rekey_length : (rekey rows u).length = rows.length :=
  List.length_map _ _

@[simp]
theorem ownedBy_append : ownedBy (t₁ ++ t₂) u = ownedBy t₁ u ++ ownedBy t₂ u :=
  List.filter_append _ _

@[simp]
theorem ownedBy_nil : ownedBy ([] : List α) u = [] := rfl

@[simp]
theorem ownedBy_rekey_self : ownedBy (rekey rows u) u = rekey rows u := by
  simp [ownedBy, rekey, List.filter_eq_self]

theorem ownedBy_rekey_of_ne (h : u ≠ x) : ownedBy (rekey rows u) x = [] := by
  simp [ownedBy, rekey, List.filter_eq_nil_iff, h]

@[simp]
theorem ownedBy_eraseOwned_self : ownedBy (eraseOwned t u) u = [] := by
  simp [ownedBy, eraseOwned, List.filter_filter, List.filter_eq_nil_iff]

theorem ownedBy_eraseOwned_of_ne (h : u ≠ x) : ownedBy (eraseOwned t u) x = ownedBy t x := by
  simp only [ownedBy, eraseOwned, List.filter_filter]
  congr 1
  funext r
  by_cases hr : cnodeUserUUID r = x <;> simp [hr, Ne.symm h]

@[simp]
theorem eraseOwned_eraseOwned : eraseOwned (eraseOwned t u) u = eraseOwned t u := by
  simp [eraseOwned, List.filter_filter]

theorem mem_rekey {r : α} (h : r ∈ rekey rows u) : cnodeUserUUID r = u := by
  obtain ⟨r', -, rfl⟩ := List.mem_map.mp h
  simp

@[simp]
theorem eraseOwned_append : eraseOwned (t₁ ++ t₂) u = eraseOwned t₁ u ++ eraseOwned t₂ u :=
  List.filter_append _ _

@[simp]
theorem eraseOwned_rekey_self : eraseOwned (rekey rows u) u = [] := by
  simp [eraseOwned, rekey, List.filter_eq_nil_iff]

theorem eraseOwned_of_ownedBy_nil (h : ownedBy t u = []) : eraseOwned t u = t := by
  simp only [ownedBy, List.filter_eq_nil_iff, decide_eq_true_eq] at h
  simpa [eraseOwned, List.filter_eq_self] using h

theorem eraseOwned_sublist : (eraseOwned t u).Sublist t :=
  List.filter_sublist _

end Row
end CreatorNode

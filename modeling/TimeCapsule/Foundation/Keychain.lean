import Mathlib

/-!
# The keychain

`KeychainService` over the generic passwords of the app, which are selected by account. The store
holds at most one value for an account, which is what `AList` enforces.
-/

namespace TimeCapsule.Foundation

/-- The accounts the app uses. -/
inductive Key where
  | accessToken
  | refreshToken
  | fcmToken
deriving DecidableEq, Repr

abbrev Keychain := AList fun _ : Key => String

namespace Keychain

/-- `SecItemDelete`. -/
def secItemDelete (k : Keychain) (key : Key) : Keychain := k.erase key

/-- `SecItemAdd`, which fails on an account that is there. -/
def secItemAdd (k : Keychain) (key : Key) (data : String) : Keychain :=
  if key ∈ k then k else k.insert key data

def save (k : Keychain) (value : String) (key : Key) : Keychain :=
  (k.secItemDelete key).secItemAdd key value

def load (k : Keychain) (key : Key) : Option String := k.lookup key

def delete (k : Keychain) (key : Key) : Keychain := k.secItemDelete key

variable (k : Keychain)

/-- A save replaces the value, because it deletes first. -/
lemma save_eq (value : String) (key : Key) : k.save value key = (k.erase key).insert key value :=
  if_neg (by simp [secItemDelete, AList.mem_erase])

@[simp]
lemma load_save (value : String) (key : Key) : (k.save value key).load key = some value := by
  rw [save_eq, load, AList.lookup_insert]

@[simp]
lemma load_save_ne {value : String} {key key' : Key} (h : key' ≠ key) :
    (k.save value key).load key' = k.load key' := by
  rw [save_eq, load, AList.lookup_insert_ne h, AList.lookup_erase_ne h]
  rfl

@[simp]
lemma load_delete (key : Key) : (k.delete key).load key = none := AList.lookup_erase key k

@[simp]
lemma load_delete_ne {key key' : Key} (h : key' ≠ key) : (k.delete key).load key' = k.load key' :=
  AList.lookup_erase_ne h

end Keychain

end TimeCapsule.Foundation

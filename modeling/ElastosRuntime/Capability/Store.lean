/-
# The capability store

The mutable state behind token validation (`store.rs`): the revocation epoch, the per-token use
counts and the individually revoked tokens, and the files some of it is kept in.  The epoch and
the revocation list have files and `load_state` reads them back; the use counts have none.

`advance_epoch` is written as the four steps it takes (`nextEpoch`, `writeEpochTmp`,
`renameEpoch`, `setEpoch`), so that the interleaved system of `Capability/Epoch.lean` takes the
same steps one by one that the sequential `advanceEpoch` takes in a row.
-/
import ElastosRuntime.Capability.Token
import ElastosRuntime.Lib.Table
import Mathlib.Data.Finset.Basic

namespace ElastosRuntime

/-! ## 1. The files -/

/-- An epoch file's text as `load_state` parses it: `none` when it is not a number. -/
abbrev EpochText := Option Nat

/-- What stands at the path of the signing key. -/
inductive KeyPath where
  | symlink
  | notRegular
  | file (bytes : List UInt8)
deriving DecidableEq

/-- The persisted files; a missing file is `none`. -/
structure DataDir where
  epoch : Option EpochText
  epochTmp : Option EpochText
  revokedTokens : Option (Finset TokenId)
  signingKey : Option KeyPath
deriving DecidableEq

namespace DataDir

/-- A directory nothing was written to. -/
def empty : DataDir := ⟨none, none, none, none⟩

/-- How a write of an epoch file ends.  A failed one leaves whatever it leaves: the old file, no
file, or a truncated text. -/
inductive WriteOutcome where
  | done
  | failed (left : Option EpochText)
deriving DecidableEq

/-- `fs::write(epoch.tmp, n)`. -/
def writeEpochTmp (dir : DataDir) (n : Nat) : WriteOutcome → DataDir
  | .done => { dir with epochTmp := some (some n) }
  | .failed left => { dir with epochTmp := left }

/-- `fs::rename(epoch.tmp, epoch)`, which needs the temporary file. -/
def renameEpoch (dir : DataDir) : Option DataDir :=
  dir.epochTmp.map fun text => { dir with epoch := some text, epochTmp := none }

/-- `fs::write(epoch, n)`, which overwrites the file in place. -/
def writeEpoch (dir : DataDir) (n : Nat) : WriteOutcome → DataDir
  | .done => { dir with epoch := some (some n) }
  | .failed left => { dir with epoch := left }

/-- The epoch `load_state` finds, if the file is there and parses. -/
def readEpoch (dir : DataDir) : Option Nat := dir.epoch.join

end DataDir

/-! ## 2. The store -/

/-- Token state.  `persistent` tells whether the store has a storage path. -/
structure CapabilityStore where
  epoch : Nat
  useCounts : Table TokenId Nat
  revokedTokens : Finset TokenId
  persistent : Bool

namespace CapabilityStore

/-- A new in-memory store. -/
def new : CapabilityStore := ⟨0, ∅, ∅, false⟩

def currentEpoch (store : CapabilityStore) : Nat := store.epoch

def setEpoch (store : CapabilityStore) (epoch : Nat) : CapabilityStore :=
  { store with epoch }

/-- A token's epoch is valid while the store has not moved past it. -/
def isEpochValid (store : CapabilityStore) (tokenEpoch : Nat) : Bool :=
  decide (store.currentEpoch ≤ tokenEpoch)

def getUseCount (store : CapabilityStore) (id : TokenId) : Nat :=
  (store.useCounts.lookup id).getD 0

/-- Check and increment the use count of a token in one critical section.  The entry is created
even when the use is refused. -/
def tryUseToken (store : CapabilityStore) (id : TokenId) (maxUses : Nat) :
    Except Nat Nat × CapabilityStore :=
  let count := store.getUseCount id
  if maxUses ≤ count then
    (.error count, { store with useCounts := store.useCounts.insert id count })
  else
    (.ok (count + 1), { store with useCounts := store.useCounts.insert id (count + 1) })

def isTokenRevoked (store : CapabilityStore) (id : TokenId) : Bool :=
  decide (id ∈ store.revokedTokens)

/-- Write the revocation list out; a failure is logged and leaves the old file. -/
def persistRevokedTokens (store : CapabilityStore) (dir : DataDir) (ioOk : Bool) : DataDir :=
  if store.persistent && ioOk then
    { dir with revokedTokens := some store.revokedTokens }
  else dir

/-- Revoke one token, in memory first and then on disk. -/
def revokeToken (store : CapabilityStore) (dir : DataDir) (id : TokenId) (ioOk : Bool) :
    CapabilityStore × DataDir :=
  let store := { store with revokedTokens := insert id store.revokedTokens }
  (store, store.persistRevokedTokens dir ioOk)

/-- The epoch an advance moves to: a 64-bit increment. -/
def nextEpoch (store : CapabilityStore) : Nat := (store.currentEpoch + 1) % 2 ^ 64

/-- Advance the epoch: persist first, then update the counter; the result is the epoch in force
afterwards. -/
def advanceEpoch (store : CapabilityStore) (dir : DataDir) (write : DataDir.WriteOutcome)
    (renameOk : Bool) : Nat × CapabilityStore × DataDir :=
  let newEpoch := store.nextEpoch
  if store.persistent then
    let dir := dir.writeEpochTmp newEpoch write
    match write, renameOk, dir.renameEpoch with
    | .done, true, some dir => (newEpoch, store.setEpoch newEpoch, dir)
    | _, _, _ => (store.currentEpoch, store, dir)
  else
    (newEpoch, store.setEpoch newEpoch, dir)

/-- Persist the state when the runtime stops, given the counter as it was loaded: the epoch file
is overwritten, and the revocation list after it. -/
def persist (store : CapabilityStore) (loaded : Nat) (dir : DataDir)
    (write : DataDir.WriteOutcome) (revokedOk : Bool) : DataDir :=
  if store.persistent then
    let dir := dir.writeEpoch loaded write
    match write with
    | .done => store.persistRevokedTokens dir revokedOk
    | .failed _ => dir
  else dir

/-- Load the persisted state; a file that cannot be read or parsed is skipped. -/
def loadState (store : CapabilityStore) (dir : DataDir) (epochReadOk revokedReadOk : Bool) :
    CapabilityStore :=
  let store := match (if epochReadOk then dir.readEpoch else none) with
    | some epoch => store.setEpoch epoch
    | none => store
  match (if revokedReadOk then dir.revokedTokens else none) with
  | some revoked => { store with revokedTokens := store.revokedTokens ∪ revoked }
  | none => store

/-- A store over a storage directory, with the state the directory holds. -/
def withPersistence (dir : DataDir) (epochReadOk revokedReadOk : Bool) : CapabilityStore :=
  loadState { new with persistent := true } dir epochReadOk revokedReadOk

/-! ## 3. What each operation does to the parts of the store -/

variable {store : CapabilityStore}

theorem isEpochValid_iff {e : Nat} : store.isEpochValid e = true ↔ store.epoch ≤ e :=
  decide_eq_true_iff

/-- A use is admitted exactly while the count is below the limit. -/
theorem tryUseToken_isOk {id : TokenId} {maxUses n : Nat}
    (h : (store.tryUseToken id maxUses).1 = .ok n) : store.getUseCount id < maxUses := by
  unfold tryUseToken at h
  dsimp only at h
  split at h
  · cases h
  · next hlt => exact Nat.lt_of_not_le hlt

/-- Below the limit the use is admitted. -/
theorem tryUseToken_of_lt {id : TokenId} {maxUses : Nat} (h : store.getUseCount id < maxUses) :
    (store.tryUseToken id maxUses).1 = .ok (store.getUseCount id + 1) := by
  unfold tryUseToken
  rw [if_neg (Nat.not_le_of_lt h)]

/-- An admitted use counts once, for its own token; a refused one counts nowhere. -/
theorem tryUseToken_getUseCount (store : CapabilityStore) (id id' : TokenId) (maxUses : Nat) :
    (store.tryUseToken id maxUses).2.getUseCount id' =
      store.getUseCount id' +
        if id' = id ∧ store.getUseCount id < maxUses then 1 else 0 := by
  unfold tryUseToken
  dsimp only
  split
  · next hle =>
    rw [if_neg (fun h => absurd h.2 (Nat.not_lt_of_le hle)), Nat.add_zero]
    unfold getUseCount
    rw [Table.lookup_insert_eq]
    split
    · next heq => rw [heq, Option.getD_some]
    · rfl
  · next hlt =>
    unfold getUseCount at hlt ⊢
    rw [Table.lookup_insert_eq]
    by_cases heq : id' = id
    · subst heq
      rw [if_pos rfl, if_pos ⟨rfl, Nat.lt_of_not_le hlt⟩, Option.getD_some]
    · rw [if_neg heq, if_neg (fun h => heq h.1), Nat.add_zero]

@[simp] theorem tryUseToken_epoch (store : CapabilityStore) (id : TokenId) (maxUses : Nat) :
    (store.tryUseToken id maxUses).2.epoch = store.epoch := by
  unfold tryUseToken
  dsimp only
  split <;> rfl

@[simp] theorem tryUseToken_persistent (store : CapabilityStore) (id : TokenId) (maxUses : Nat) :
    (store.tryUseToken id maxUses).2.persistent = store.persistent := by
  unfold tryUseToken
  dsimp only
  split <;> rfl

/-- Advancing the epoch leaves the use counts alone. -/
@[simp] theorem advanceEpoch_getUseCount (store : CapabilityStore) (dir : DataDir)
    (write : DataDir.WriteOutcome) (renameOk : Bool) (id : TokenId) :
    (store.advanceEpoch dir write renameOk).2.1.getUseCount id = store.getUseCount id := by
  unfold advanceEpoch
  dsimp only
  split
  · split <;> rfl
  · rfl

/-- A store loaded from disk has the epoch of the file, if the file can be read. -/
theorem withPersistence_epoch (dir : DataDir) (revokedReadOk : Bool) :
    (withPersistence dir true revokedReadOk).epoch = dir.readEpoch.getD 0 := by
  unfold withPersistence loadState
  cases dir.readEpoch with
  | none => dsimp only; split <;> rfl
  | some e => dsimp only; split <;> rfl

theorem withPersistence_persistent (dir : DataDir) (epochReadOk revokedReadOk : Bool) :
    (withPersistence dir epochReadOk revokedReadOk).persistent = true := by
  unfold withPersistence loadState
  dsimp only
  split <;> split <;> rfl

end CapabilityStore

end ElastosRuntime

import MorphReth.Proofs.Models

set_option autoImplicit false

namespace MorphReth.Proofs

structure BlockNumberVersionedCursor (κ ν : Type) [LinearOrder κ] where
  cursor : DupCursor κ (Option ν)
  maxBlockNumber : Nat

namespace BlockNumberVersionedCursor

variable {κ ν : Type} [LinearOrder κ]

def new (table : HistoryTable κ ν) (maxBlockNumber : Nat) : BlockNumberVersionedCursor κ ν where
  cursor := ⟨table, none⟩
  maxBlockNumber := maxBlockNumber

def isPositioned (self : BlockNumberVersionedCursor κ ν) : Bool :=
  self.cursor.current.isSome

def latestVersionForKey (self : BlockNumberVersionedCursor κ ν) (key : κ) :
    Option (DupRow κ (Option ν)) × BlockNumberVersionedCursor κ ν :=
  let sought := self.cursor.seekByKeySubkey key self.maxBlockNumber
  match sought.1 with
  | some row =>
      if self.maxBlockNumber < row.subkey then (sought.2.prevDup.1, { self with cursor := sought.2.prevDup.2 })
      else (some ⟨key, row.subkey, row.value⟩, { self with cursor := sought.2 })
  | none =>
      let present := sought.2.seekExact key
      match present.1 with
      | none => (none, { self with cursor := present.2 })
      | some _ => (present.2.lastDup.1.map (fun row => ⟨key, row.subkey, row.value⟩), { self with cursor := present.2.lastDup.2 })

def seekExact (self : BlockNumberVersionedCursor κ ν) (key : κ) : Option (κ × ν) × BlockNumberVersionedCursor κ ν :=
  let found := self.latestVersionForKey key
  (found.1.bind (fun row => row.value.map (fun value => (row.key, value))), found.2)

-- One unit of fuel for each distinct key visited.
def nextLiveFrom : Nat → BlockNumberVersionedCursor κ ν → κ → Option (κ × ν) × BlockNumberVersionedCursor κ ν
  | 0, self, _ => (none, self)
  | fuel + 1, self, firstKey =>
      let found := self.seekExact firstKey
      match found.1 with
      | some entry => (some entry, found.2)
      | none =>
          let moved := found.2.cursor.nextNoDup
          match moved.1 with
          | none => (none, { found.2 with cursor := moved.2 })
          | some row => nextLiveFrom fuel { found.2 with cursor := moved.2 } row.key

def visits (self : BlockNumberVersionedCursor κ ν) : Nat :=
  self.cursor.table.rows.length

def seek (self : BlockNumberVersionedCursor κ ν) (startKey : κ) : Option (κ × ν) × BlockNumberVersionedCursor κ ν :=
  let sought := self.cursor.seek startKey
  match sought.1 with
  | none => (none, { self with cursor := sought.2 })
  | some row => nextLiveFrom self.visits { self with cursor := sought.2 } row.key

def next [Inhabited κ] (self : BlockNumberVersionedCursor κ ν) : Option (κ × ν) × BlockNumberVersionedCursor κ ν :=
  if self.isPositioned then
    let moved := self.cursor.nextNoDup
    match moved.1 with
    | none => (none, { self with cursor := moved.2 })
    | some row => nextLiveFrom self.visits { self with cursor := moved.2 } row.key
  else self.seek default

end BlockNumberVersionedCursor

structure StorageTrieCursor where
  inner : BlockNumberVersionedCursor StorageTrieKey BranchNodeCompact
  hashedAddress : Option B256

structure MdbxStorageCursor where
  inner : BlockNumberVersionedCursor HashedStorageKey U256
  hashedAddress : B256

section AddressBound

variable {σ ν : Type}

-- Only entries of the bound address are handed out.
def ofAddress (address : B256) (found : Option (AddressKey σ × ν)) : Option (σ × ν) :=
  found.bind (fun entry => if (ofLex entry.1).1 = address then some ((ofLex entry.1).2, entry.2) else none)

end AddressBound

instance {σ : Type} [Inhabited σ] : Inhabited (AddressKey σ) :=
  ⟨toLex (default, default)⟩

namespace StorageTrieCursor

def new (table : HistoryTable StorageTrieKey BranchNodeCompact) (maxBlockNumber : Nat) (hashedAddress : Option B256) : StorageTrieCursor where
  inner := BlockNumberVersionedCursor.new table maxBlockNumber
  hashedAddress := hashedAddress

def seekExact (self : StorageTrieCursor) (path : Nibbles) : Option (Nibbles × BranchNodeCompact) × StorageTrieCursor :=
  match self.hashedAddress with
  | none => (none, self)
  | some address =>
      let found := self.inner.seekExact (toLex (address, path))
      (ofAddress address found.1, { self with inner := found.2 })

def seek (self : StorageTrieCursor) (path : Nibbles) : Option (Nibbles × BranchNodeCompact) × StorageTrieCursor :=
  match self.hashedAddress with
  | none => (none, self)
  | some address =>
      let found := self.inner.seek (toLex (address, path))
      (ofAddress address found.1, { self with inner := found.2 })

def next (self : StorageTrieCursor) : Option (Nibbles × BranchNodeCompact) × StorageTrieCursor :=
  match self.hashedAddress with
  | none => (none, self)
  | some address =>
      if self.inner.isPositioned then
        let found := self.inner.next
        (ofAddress address found.1, { self with inner := found.2 })
      else self.seek []

end StorageTrieCursor

namespace MdbxStorageCursor

def new (table : HistoryTable HashedStorageKey U256) (blockNumber : Nat) (hashedAddress : B256) : MdbxStorageCursor where
  inner := BlockNumberVersionedCursor.new table blockNumber
  hashedAddress := hashedAddress

-- One unit of fuel for each entry skipped because its value is zero.
def skipZeros : Nat → MdbxStorageCursor → Option (B256 × U256) × MdbxStorageCursor
  | 0, self => (none, self)
  | fuel + 1, self =>
      let found := self.inner.next
      let result := ofAddress self.hashedAddress found.1
      match result with
      | some entry =>
          if entry.2 = 0 then skipZeros fuel { self with inner := found.2 } else (some entry, { self with inner := found.2 })
      | none => (none, { self with inner := found.2 })

-- After a zero entry the cursor stands on it, so the call of next goes straight
-- to its loop.
def seek (self : MdbxStorageCursor) (key : B256) : Option (B256 × U256) × MdbxStorageCursor :=
  let found := self.inner.seek (toLex (self.hashedAddress, key))
  match ofAddress self.hashedAddress found.1 with
  | some entry =>
      if entry.2 = 0 then skipZeros (self.inner.visits + 1) { self with inner := found.2 } else (some entry, { self with inner := found.2 })
  | none => (none, { self with inner := found.2 })

def next (self : MdbxStorageCursor) : Option (B256 × U256) × MdbxStorageCursor :=
  if self.inner.isPositioned then skipZeros (self.inner.visits + 1) self else self.seek 0

end MdbxStorageCursor

end MorphReth.Proofs

/-! Integers brought into the words of fixed width that hold them, if they fit. -/
namespace Signage.Number

/-- The integer as a signed word of 64 bits. -/
def int64? (n : Int) : Option Int64 :=
  if Int64.minValue.toInt ≤ n ∧ n ≤ Int64.maxValue.toInt then some (.ofInt n) else none

def int32? (n : Int) : Option Int32 :=
  if Int32.minValue.toInt ≤ n ∧ n ≤ Int32.maxValue.toInt then some (.ofInt n) else none

/-- The integer as an unsigned word of 64 bits. -/
def uint64? (n : Int) : Option UInt64 :=
  if 0 ≤ n ∧ n < UInt64.size then some (.ofNat n.toNat) else none

def uint32? (n : Int) : Option UInt32 :=
  if 0 ≤ n ∧ n < UInt32.size then some (.ofNat n.toNat) else none

def uint16? (n : Int) : Option UInt16 :=
  if 0 ≤ n ∧ n < UInt16.size then some (.ofNat n.toNat) else none

def uint8? (n : Int) : Option UInt8 :=
  if 0 ≤ n ∧ n < UInt8.size then some (.ofNat n.toNat) else none

/-- A word of 64 bits read as signed: what is above the signed range becomes negative. -/
def asSigned (n : UInt64) : Int64 := n.toInt64

/-- A signed word read as a count: what is below zero counts as zero. -/
def clampedUnsigned (n : Int64) : UInt64 := if n < 0 then 0 else n.toUInt64

/-- A word is the word of its number. -/
theorem int64?_toInt (n : Int64) : int64? n.toInt = some n :=
  (if_pos ⟨n.minValue_le_toInt, n.toInt_le⟩).trans (congrArg some (Int64.ofInt_toInt n))

theorem int32?_toInt (n : Int32) : int32? n.toInt = some n :=
  (if_pos ⟨n.minValue_le_toInt, n.toInt_le⟩).trans (congrArg some (Int32.ofInt_toInt n))

theorem uint64?_toNat (n : UInt64) : uint64? n.toNat = some n := by
  have := n.toNat_lt
  simp [uint64?]
  omega

theorem uint32?_toNat (n : UInt32) : uint32? n.toNat = some n := by
  have := n.toNat_lt
  simp [uint32?]
  omega

theorem uint8?_toNat (n : UInt8) : uint8? n.toNat = some n := by
  have := n.toNat_lt
  simp [uint8?]
  omega

end Signage.Number

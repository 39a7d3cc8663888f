/-!
# Machine integers

Which integers fit in a machine word. `int64?` and `uint64?` give the word that
holds an integer, and nothing when it is out of range.
-/

namespace TableFlow

/-- One more than the largest signed 64-bit integer. -/
def int64Bound : Nat := 0x8000000000000000

/-- The signed 64-bit word that holds the integer. -/
def int64? (i : Int) : Option Int64 :=
  if -int64Bound ≤ i ∧ i < int64Bound then some (Int64.ofInt i) else none

/-- The unsigned 64-bit word that holds the number. -/
def uint64? (n : Nat) : Option UInt64 :=
  if n < UInt64.size then some (UInt64.ofNat n) else none

theorem toInt_of_int64? {i : Int} {w : Int64} (h : int64? i = some w) : w.toInt = i := by
  unfold int64? at h
  split at h
  · rename_i range
    cases h
    exact Int64.toInt_ofInt_of_le range.1 range.2
  · exact absurd h (by simp)

theorem int64?_toInt (w : Int64) : int64? w.toInt = some w := by
  unfold int64?
  rw [if_pos ⟨w.le_toInt, w.toInt_lt⟩, Int64.ofInt_toInt]

end TableFlow

import TableFlow.Proofs.Counter.Entries
import TableFlow.Proofs.Text.Utf8
import TableFlow.Proofs.Value.Order
import TableFlow.Value.Hash

/-!
# Values as keys

The exact order of values and what they feed to a hasher agree on which values are the same, so
a hashed collection finds a value exactly where it holds an equal one.

* `Double.key_eq_toInt_folded` gives the total order of doubles as the order of their folded
  patterns, and `Double.cmp_eq_lt_iff` as one of signs and magnitudes;
* `Value.contentWrites_append_inj` says that no value feeds the beginning of what another one
  feeds, and `Value.hashWrites_inj` that different values feed different data;
* `HashIndex.find?_upsert` is the law of one update of a hashed map and `HashIndex.find?_counting`
  that of a whole list of keys, whatever the hash function;
* `HashIndex.toList_upsert` carries the laws over to lists of keys that are searched one by one,
  `HashIndex.toList_counting` to counters;
* `Value.lawful_keys` collects what makes values lawful keys.
-/

namespace TableFlow

namespace Double

/-! ## The total order of patterns -/

/-- The pattern with the bits below a set sign bit turned over. -/
def folded (x : Double) : BitVec 64 :=
  x.bits.toBitVec ^^^ (x.bits.toBitVec.sshiftRight 63 >>> 1)

theorem msb_bits (x : Double) : x.bits.toBitVec.msb = x.isNegative := by
  rw [BitVec.msb_eq_decide]
  rfl

theorem ushiftRight_eq_zero {b : BitVec 64} (h : b.msb = false) : b >>> 63 = 0#64 := by
  have hlt := BitVec.msb_eq_false_iff_two_mul_lt.mp h
  apply BitVec.eq_of_toNat_eq
  rw [BitVec.toNat_ushiftRight, Nat.shiftRight_eq_div_pow, Nat.div_eq_of_lt (by omega)]
  rfl

/-- Shifted by all bits but one, a pattern is filled with its sign. -/
theorem sshiftRight_bits (x : Double) :
    x.bits.toBitVec.sshiftRight 63 = if x.isNegative then BitVec.allOnes 64 else 0#64 := by
  rw [← msb_bits]
  cases hmsb : x.bits.toBitVec.msb with
  | false =>
    rw [BitVec.sshiftRight_eq_of_msb_false hmsb, ushiftRight_eq_zero hmsb]
    rfl
  | true =>
    have hnot : (~~~x.bits.toBitVec).msb = false := by
      rw [BitVec.msb_not, hmsb]
      rfl
    rw [BitVec.sshiftRight_eq_of_msb_true hmsb, ushiftRight_eq_zero hnot]
    rfl

/-- Turning over the lower 63 bits counts them from the other end. -/
theorem xor_lowerBits {n : Nat} (hlow : 2 ^ 63 ≤ n) (hhigh : n < 2 ^ 64) :
    n ^^^ (2 ^ 63 - 1) = 2 ^ 63 + (2 ^ 63 - 1 - n % 2 ^ 63) := by
  have hrest : n % 2 ^ 63 ^^^ (2 ^ 63 - 1) = 2 ^ 63 - 1 - n % 2 ^ 63 := by
    have hnot := BitVec.toNat_not (x := BitVec.ofNat 63 n)
    rwa [← BitVec.xor_allOnes, BitVec.toNat_xor, BitVec.toNat_allOnes, BitVec.toNat_ofNat] at hnot
  have hsign : n / 2 ^ 63 = 1 := by omega
  have hmask : (2 ^ 63 - 1) / 2 ^ 63 = 0 ∧ (2 ^ 63 - 1) % 2 ^ 63 = 2 ^ 63 - 1 := ⟨rfl, rfl⟩
  calc n ^^^ (2 ^ 63 - 1)
      = 2 ^ 63 * ((n ^^^ (2 ^ 63 - 1)) / 2 ^ 63) + (n ^^^ (2 ^ 63 - 1)) % 2 ^ 63 :=
        (Nat.div_add_mod _ _).symm
    _ = 2 ^ 63 * (1 ^^^ 0) + (n % 2 ^ 63 ^^^ (2 ^ 63 - 1)) := by
        rw [Nat.xor_div_two_pow, Nat.xor_mod_two_pow, hsign, hmask.1, hmask.2]
    _ = 2 ^ 63 + (2 ^ 63 - 1 - n % 2 ^ 63) := by
        rw [hrest]
        rfl

/-- The place of a pattern in the total order is its folded pattern. -/
theorem key_eq_toInt_folded (x : Double) : x.key = x.folded.toInt := by
  have hbits := bits_eq_magnitude x
  have hlt : x.bits.toNat < 2 ^ 64 := x.bits.toNat_lt
  have hmag : x.magnitude = x.bits.toNat % 2 ^ 63 := rfl
  have hsign : signBit = 2 ^ 63 := rfl
  have hmask : (BitVec.allOnes 64 >>> 1).toNat = 2 ^ 63 - 1 := rfl
  rw [folded, sshiftRight_bits, key, BitVec.toInt_eq_toNat_cond, BitVec.toNat_xor,
    UInt64.toNat_toBitVec]
  cases hneg : x.isNegative with
  | false =>
    simp only [hneg, Bool.false_eq_true, if_false, BitVec.zero_ushiftRight, BitVec.toNat_ofNat,
      Nat.zero_mod, Nat.xor_zero] at hbits ⊢
    rw [if_pos (by omega), hbits]
  | true =>
    simp only [hneg, if_true] at hbits ⊢
    rw [hmask, xor_lowerBits (by omega) hlt, if_neg (by omega)]
    omega

/-- Negative patterns stand below the others, and among themselves the larger one first. -/
theorem cmp_eq_lt_iff {x y : Double} : x.cmp y = .lt ↔
    if x.isNegative then y.isNegative → y.magnitude < x.magnitude
    else ¬y.isNegative ∧ x.magnitude < y.magnitude := by
  rw [cmp, Int.compare_eq_lt, key, key]
  cases x.isNegative <;> cases y.isNegative <;> simp <;> omega

end Double

namespace Value

/-! ## What is fed to a hasher -/

theorem rank_lt (v : Value) : v.rank < 6 := by
  cases v <;> simp [rank]

/-- The byte of a kind tells kinds apart. -/
theorem rank_eq_of_byte_eq {a b : Value} (h : UInt8.ofNat a.rank = UInt8.ofNat b.rank) :
    a.rank = b.rank := by
  have ha := rank_lt a
  have hb := rank_lt b
  have hnat := congrArg UInt8.toNat h
  rw [UInt8.toNat_ofNat', UInt8.toNat_ofNat'] at hnat
  omega

theorem ofString_inj {s t : String} (h : Utf8.ofString s = Utf8.ofString t) : s = t := by
  have hread := Utf8.decode_ofString s
  rw [h, Utf8.decode_ofString t] at hread
  exact (String.toList_inj.mp (Except.ok.inj hread)).symm

mutual

/-- Values of one kind that feed the same, whatever is fed behind them, are the same. -/
theorem contentWrites_append_inj {a b : Value} {r s : List HashWrite} (hrank : a.rank = b.rank)
    (h : a.contentWrites ++ r = b.contentWrites ++ s) : a = b ∧ r = s := by
  match a, b, hrank with
  | .null, .null, _ => exact ⟨rfl, h⟩
  | .bool a, .bool b, _ =>
    obtain ⟨hbyte, hrest⟩ := List.cons.inj h
    refine ⟨?_, hrest⟩
    cases a <;> cases b <;> first | rfl | exact absurd (HashWrite.byte.inj hbyte) (by decide)
  | .int a, .int b, _ =>
    obtain ⟨hint, hrest⟩ := List.cons.inj h
    exact ⟨congrArg Value.int (HashWrite.int.inj hint), hrest⟩
  | .float ⟨a⟩, .float ⟨b⟩, _ =>
    obtain ⟨hword, hrest⟩ := List.cons.inj h
    have hbits : a = b := HashWrite.word.inj hword
    exact ⟨by rw [hbits], hrest⟩
  | .str a, .str b, _ =>
    obtain ⟨hbytes, hrest⟩ := List.cons.inj h
    exact ⟨congrArg Value.str (ofString_inj (HashWrite.bytes.inj hbytes)), (List.cons.inj hrest).2⟩
  | .list as, .list bs, _ =>
    obtain ⟨hlength, hrest⟩ := List.cons.inj h
    obtain ⟨hitems, hrest⟩ := hashWritesAll_append_inj (HashWrite.length.inj hlength) hrest
    exact ⟨congrArg Value.list hitems, hrest⟩

theorem hashWritesAll_append_inj {as bs : List Value} {r s : List HashWrite}
    (hlength : as.length = bs.length) (h : hashWritesAll as ++ r = hashWritesAll bs ++ s) :
    as = bs ∧ r = s := by
  match as, bs, hlength with
  | [], [], _ => exact ⟨rfl, h⟩
  | a :: as, b :: bs, hlength =>
    rw [hashWritesAll, hashWritesAll, List.append_assoc, List.append_assoc] at h
    obtain ⟨hbyte, hfirst⟩ := List.cons.inj h
    have hrank := rank_eq_of_byte_eq (HashWrite.byte.inj hbyte)
    obtain ⟨rfl, hitems⟩ := contentWrites_append_inj hrank hfirst
    obtain ⟨rfl, hrest⟩ := hashWritesAll_append_inj (Nat.succ.inj hlength) hitems
    exact ⟨rfl, hrest⟩

end

/-- Values feed the same to a hasher exactly if they compare as equal. -/
theorem hashWrites_inj {a b : Value} : a.hashWrites = b.hashWrites ↔ cmp a b = .eq := by
  rw [cmp_eq_iff]
  constructor
  · intro h
    obtain ⟨hbyte, hcontents⟩ := List.cons.inj h
    have hrank := rank_eq_of_byte_eq (HashWrite.byte.inj hbyte)
    exact (contentWrites_append_inj hrank (congrArg (· ++ []) hcontents)).1
  · rintro rfl
    rfl

theorem cmpList_eq_compareLex (as bs : List Value) : cmpList as bs = List.compareLex cmp as bs := by
  induction as generalizing bs with
  | nil => cases bs <;> rfl
  | cons a as ih =>
    cases bs with
    | nil => rfl
    | cons b bs => rw [cmpList, List.compareLex_cons_cons, ih]

end Value

/-! ## Hashed maps -/

section Hashed

variable {hashing : Hashing} {α : Type}

namespace HashEntry

/-- Whatever the hash function, a search ends at an entry exactly if the keys compare as equal:
equal values have fed the same, so their hashes are the same as well. -/
theorem isFoundBy_iff (key : Value) {e : HashEntry α} (h : e.Sound hashing) :
    e.isFoundBy hashing key = true ↔ key.cmp e.key = .eq := by
  rw [isFoundBy, Bool.and_eq_true, beq_iff_eq]
  constructor
  · exact fun hboth => hboth.2
  · intro heq
    refine ⟨?_, heq⟩
    have hwrites : key.hashWrites = e.key.hashWrites := Value.hashWrites_inj.mpr heq
    rw [h, Hashing.hashOf, Hashing.hashOf, hwrites]
    exact hashing.meets_self _

/-- An update of hashed entries is one of their keys and values. -/
theorem map_upsert {key : Value} {new : α} {change : α → α} {entries : List (HashEntry α)}
    (h : ∀ e ∈ entries, e.Sound hashing) :
    (upsert hashing key new change entries).map (fun e => (e.key, e.value)) =
      Entries.upsert key new change (entries.map fun e => (e.key, e.value)) := by
  induction entries with
  | nil => rfl
  | cons e rest ih =>
    have hfound := isFoundBy_iff key (h e List.mem_cons_self)
    rw [Value.cmp_eq_iff] at hfound
    rw [upsert, List.map_cons, Entries.upsert]
    by_cases hkey : key = e.key
    · rw [if_pos (hfound.mpr hkey), if_pos hkey.symm]
      rfl
    · rw [if_neg (mt hfound.mp hkey), if_neg (Ne.symm hkey), List.map_cons,
        ih fun e he => h e (List.mem_cons_of_mem _ he)]

end HashEntry

namespace HashIndex

theorem toList_upsert (index : HashIndex hashing α) (key : Value) (new : α) (change : α → α) :
    (index.upsert key new change).toList = Entries.upsert key new change index.toList :=
  HashEntry.map_upsert index.sound

/-- A search by hashes finds what a search through all keys finds. -/
theorem find?_eq_lookup (index : HashIndex hashing α) (key : Value) :
    index.find? key = index.toList.lookup key := by
  obtain ⟨entries, hsound⟩ := index
  unfold find? toList
  induction entries with
  | nil => rfl
  | cons e rest ih =>
    have hfound := HashEntry.isFoundBy_iff key (hsound e List.mem_cons_self)
    rw [Value.cmp_eq_iff] at hfound
    simp only at ih ⊢
    rw [List.map_cons, Entries.lookup_cons, List.find?_cons]
    by_cases hkey : key = e.key
    · rw [if_pos hkey, hfound.mpr hkey]
      rfl
    · rw [if_neg hkey, Bool.eq_false_iff.mpr (mt hfound.mp hkey)]
      exact ih fun e he => hsound e (List.mem_cons_of_mem _ he)

/-- After an update exactly the keys that compare as equal find the new value. -/
theorem find?_upsert (index : HashIndex hashing α) (key k : Value) (new : α) (change : α → α) :
    (index.upsert key new change).find? k =
      if k.cmp key = .eq then some ((index.find? key).elim new change) else index.find? k := by
  simp only [find?_eq_lookup, toList_upsert, Entries.lookup_upsert, Value.cmp_eq_iff]

/-- A hashed map that counts is a counter. -/
theorem toList_counting (keys : List Value) :
    (counting hashing keys).toList = (Counter.ofList keys).entries := by
  have hrun : ∀ (index : HashIndex hashing Nat) (c : Counter Value), index.toList = c.entries →
      (keys.foldl (fun index key => index.upsert key 1 (· + 1)) index).toList =
        (c.extend keys).entries := by
    induction keys with
    | nil => exact fun _ _ h => h
    | cons key keys ih =>
      intro index c h
      refine ih (index.upsert key 1 (· + 1)) (c.add key) ?_
      rw [toList_upsert, h]
      exact (Counter.addEntry_eq_upsert key 1 c.entries).symm
  exact hrun empty Counter.empty rfl

/-- In a map into which keys were put, a search finds all that compare as equal. -/
theorem find?_counting (keys : List Value) (k : Value) : (counting hashing keys).find? k =
    if ∃ key ∈ keys, k.cmp key = .eq then some (keys.countP (k.cmp · == .eq)) else none := by
  have hcount : keys.countP (k.cmp · == .eq) = keys.count k := by
    refine List.countP_congr fun key _ => ?_
    rw [beq_iff_eq, beq_iff_eq, Value.cmp_eq_iff, eq_comm]
  have hmem : (∃ key ∈ keys, k.cmp key = .eq) ↔ k ∈ keys := by
    simp only [Value.cmp_eq_iff, exists_eq_right']
  rw [find?_eq_lookup, toList_counting, Counter.lookup_ofList, hcount]
  simp only [hmem]

end HashIndex

end Hashed

/-! ## Lawful keys -/

/-- Values are lawful keys. Their exact order is total, antisymmetric and transitive, and only
the same contents compare as equal: kinds by their rank, doubles by their patterns, folded at the
sign, so that negative ones stand below the others and the larger magnitude further out, and lists
by their first difference. Exactly the values that compare as equal feed the same
to a hasher; so whatever the hash function, in every state of a hashed map a key finds what was
put there under an equal one, and in a map of all keys put there it finds all that are equal. -/
theorem Value.lawful_keys :
    (∀ a b, cmp a b ≠ .gt ∨ cmp b a ≠ .gt) ∧
      (∀ a b, cmp a b ≠ .gt → cmp b a ≠ .gt → a = b) ∧
      (∀ a b c, cmp a b ≠ .gt → cmp b c ≠ .gt → cmp a c ≠ .gt) ∧
      (∀ a b, cmp b a = (cmp a b).swap) ∧
      (∀ a b, cmp a b = .eq ↔ a = b) ∧
      (∀ a b, a.rank ≠ b.rank → cmp a b = Ord.compare a.rank b.rank) ∧
      (∀ x y, cmp (.float x) (.float y) = Ord.compare x.folded.toInt y.folded.toInt) ∧
      (∀ x y, cmp (.float x) (.float y) = .lt ↔
        if x.isNegative then y.isNegative → y.magnitude < x.magnitude
        else ¬y.isNegative ∧ x.magnitude < y.magnitude) ∧
      (∀ x y, cmp (.float x) (.float y) = .eq ↔ x.bits = y.bits) ∧
      (∀ as bs, cmp (.list as) (.list bs) = List.compareLex cmp as bs) ∧
      (∀ a b, a.hashWrites = b.hashWrites ↔ cmp a b = .eq) ∧
      (∀ (hashing : Hashing) (α : Type) (index : HashIndex hashing α) (key k : Value) (new : α)
          (change : α → α), (index.upsert key new change).find? k =
        if k.cmp key = .eq then some ((index.find? key).elim new change) else index.find? k) ∧
      ∀ (hashing : Hashing) (keys : List Value) (k : Value),
        (HashIndex.counting hashing keys).find? k =
          if ∃ key ∈ keys, k.cmp key = .eq then some (keys.countP (k.cmp · == .eq)) else none := by
  refine ⟨?_, ?_, fun _ _ _ => cmp_ne_gt_trans, cmp_swap, fun _ _ => cmp_eq_iff,
    fun _ _ => cmp_of_rank_ne, ?_, fun _ _ => Double.cmp_eq_lt_iff, ?_, cmpList_eq_compareLex,
    fun _ _ => hashWrites_inj, fun _ _ => HashIndex.find?_upsert, fun _ => HashIndex.find?_counting⟩
  · intro a b
    rw [cmp_swap a b]
    cases cmp a b <;> simp
  · intro a b hab hba
    rw [cmp_swap a b] at hba
    cases hcmp : cmp a b with
    | lt => simp [hcmp] at hba
    | eq => exact cmp_eq_iff.mp hcmp
    | gt => exact absurd hcmp hab
  · intro x y
    rw [cmp, Double.cmp, Double.key_eq_toInt_folded, Double.key_eq_toInt_folded]
  · intro x y
    rw [cmp, Double.cmp_eq_iff, Double.mk.injEq]

/-- Keys of three kinds that show as `1`, the two zeros, and two NaNs, each of them twice. -/
example : (HashIndex.counting ⟨fun _ => 0, fun _ _ => true, fun _ => rfl⟩
    ([.int 1, .float (Double.ofNat 1), .str "1", .float ⟨0⟩, .float ⟨0x8000000000000000⟩,
      .float (Double.quietNaN false), .list [.float (Double.quietNaN true), .null]].flatMap
        fun v => [v, v])).toList.map Prod.snd = [2, 2, 2, 2, 2, 2, 2] := by
  decide +kernel

end TableFlow

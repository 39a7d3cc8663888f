import TableFlow.Text.Utf8

/-!
# Bytes that are read back

Reading the bytes of a text gives the text. The statement for one character holds whatever
bytes follow it, and a whole text is by induction from there.

* `Utf8.decode_ofString` is the round trip;
* `Utf8.toNat_lt_of_ofString` says that the byte of a text of a single byte is one of the
  first 128.
-/

namespace TableFlow.Utf8

theorem toNat_byte {n : Nat} (h : n < 0x100) : (byte n).toNat = n := by
  unfold byte
  rw [UInt8.toNat_ofNat']
  omega

theorem tail?_byte {n : Nat} (h : n < 0x40) : tail? (byte (0x80 + n)) = some n := by
  unfold tail?
  rw [toNat_byte (by omega), if_pos (by omega), Nat.add_sub_cancel_left]

theorem char?_toNat {least : Nat} {c : Char} (h : least ≤ c.toNat) :
    char? least c.toNat = some c := by
  unfold char?
  rw [if_pos ⟨h, c.valid⟩, Char.ofNat_toNat]

theorem toNat_lt (c : Char) : c.toNat < 0x110000 := by
  rcases c.valid with h | ⟨-, h⟩
  · exact Nat.lt_trans h (by decide)
  · exact h

/-- A character is read from its bytes, whatever follows them. -/
theorem next?_encodeChar (c : Char) (rest : List UInt8) :
    next? (encodeChar c ++ rest) = some (c, (encodeChar c).length, rest) := by
  have hlt := toNat_lt c
  have hlow : ∀ n, n % 0x40 < 0x40 := fun n => Nat.mod_lt n (by decide)
  -- one case for each number of bytes
  unfold encodeChar
  simp only
  split
  · rename_i h1
    simp only [List.cons_append, List.nil_append, next?, toNat_byte (by omega : c.toNat < 0x100),
      if_pos h1, Char.ofNat_toNat]
    rfl
  split
  · rename_i h1 h2
    have hhigh : (byte (0xC0 + c.toNat / 0x40)).toNat = 0xC0 + c.toNat / 0x40 :=
      toNat_byte (by omega)
    have hcode : (0xC0 + c.toNat / 0x40 - 0xC0) * 0x40 + c.toNat % 0x40 = c.toNat := by omega
    have hchar : char? 0x80 c.toNat = some c := char?_toNat (by omega)
    simp only [List.cons_append, List.nil_append, next?, hhigh, tail?_byte (hlow _)]
    rw [if_neg (by omega), if_pos (by omega)]
    simp only [Option.bind_eq_bind, Option.bind_some, hcode, hchar]
    rfl
  split
  · rename_i h1 h2 h3
    have hhigh : (byte (0xE0 + c.toNat / 0x1000)).toNat = 0xE0 + c.toNat / 0x1000 :=
      toNat_byte (by omega)
    have hcode : ((0xE0 + c.toNat / 0x1000 - 0xE0) * 0x40 + c.toNat / 0x40 % 0x40) * 0x40 +
        c.toNat % 0x40 = c.toNat := by omega
    have hchar : char? 0x800 c.toNat = some c := char?_toNat (by omega)
    simp only [List.cons_append, List.nil_append, next?, hhigh, tail?_byte (hlow _)]
    rw [if_neg (by omega), if_neg (by omega), if_pos (by omega)]
    simp only [Option.bind_eq_bind, Option.bind_some, hcode, hchar]
    rfl
  · rename_i h1 h2 h3
    have hhigh : (byte (0xF0 + c.toNat / 0x40000)).toNat = 0xF0 + c.toNat / 0x40000 :=
      toNat_byte (by omega)
    have hcode : (((0xF0 + c.toNat / 0x40000 - 0xF0) * 0x40 + c.toNat / 0x1000 % 0x40) * 0x40 +
        c.toNat / 0x40 % 0x40) * 0x40 + c.toNat % 0x40 = c.toNat := by omega
    have hchar : char? 0x10000 c.toNat = some c := char?_toNat (by omega)
    simp only [List.cons_append, List.nil_append, next?, hhigh, tail?_byte (hlow _)]
    rw [if_neg (by omega), if_neg (by omega), if_neg (by omega)]
    simp only [Option.bind_eq_bind, Option.bind_some, hcode, hchar]
    rfl

theorem encodeChar_length_pos (c : Char) : 0 < (encodeChar c).length := by
  unfold encodeChar
  simp only
  split
  · simp
  split
  · simp
  split <;> simp

theorem decodeFrom_encode {cs : List Char} {fuel : Nat} (start : Nat)
    (hfuel : (encode cs).length ≤ fuel) : decodeFrom fuel start (encode cs) = .ok cs := by
  induction cs generalizing fuel start with
  | nil => cases fuel <;> rfl
  | cons c cs ih =>
    have hpos := encodeChar_length_pos c
    have hcons : encode (c :: cs) = encodeChar c ++ encode cs := List.flatMap_cons
    rw [hcons, List.length_append] at hfuel
    obtain ⟨fuel, rfl⟩ : ∃ more, fuel = more + 1 := ⟨fuel - 1, by omega⟩
    have hsome : encodeChar c ++ encode cs ≠ [] := by
      intro hnil
      rw [(List.append_eq_nil_iff.mp hnil).1] at hpos
      cases hpos
    rw [hcons, decodeFrom]
    · rw [next?_encodeChar]
      simp only
      rw [ih _ (by omega)]
    · exact hsome

/-- The bytes of a text are read as the text. -/
theorem decode_ofString (s : String) : decode (ofString s) = .ok s.toList :=
  decodeFrom_encode 0 (Nat.le_refl _)

/-- A text of a single byte has it for its only character. -/
theorem toNat_lt_of_ofString {s : String} {b : UInt8} (h : ofString s = [b]) :
    b.toNat < 0x80 := by
  unfold ofString encode at h
  cases hchars : s.toList with
  | nil => simp [hchars] at h
  | cons c cs =>
    rw [hchars, List.flatMap_cons, encodeChar] at h
    split at h
    · rename_i hascii
      obtain ⟨rfl, -⟩ := List.cons.inj h
      rwa [toNat_byte (by omega)]
    split at h
    · simp at h
    split at h <;> simp at h

end TableFlow.Utf8

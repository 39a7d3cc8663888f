import TableFlow.Proofs.Number.Numerals
import TableFlow.Proofs.Profile.Typecast

/-!
# Conversion of texts

A converter leaves everything but texts alone, and a text too unless one of its types accepts it;
then the first such type decides (`Converter.Outcome`). Integers are converted exactly: what becomes
one is a numeral between white space, and with integers first in the list every such numeral that
fits in 64 bits does. The same goes for truth values and their words in any letter case.
`Converter.converts_exactly` says all this of any list of types.
-/

namespace TableFlow

/-- The text is a numeral for the integer with white space around it. -/
def WritesInt (s : String) (i : Int) : Prop :=
  ∃ left cs right, Text.Blank left ∧ Text.Blank right ∧ s.toList = left ++ cs ++ right ∧
    Numeral cs i

theorem writesInt_iff {s : String} {i : Int} :
    WritesInt s i ↔ Numeral (Text.trim s.toList) i := by
  constructor
  · rintro ⟨left, cs, right, hleft, hright, hs, hcs⟩
    rwa [hs, Text.trim_padded hleft hright hcs.trimmed]
  · intro h
    obtain ⟨left, right, hleft, hright, hs⟩ := Text.exists_padding s.toList
    exact ⟨left, _, right, hleft, hright, hs, h⟩

/-- The word for a truth value, in any letter case. -/
def TruthWord (cs : List Char) (b : Bool) : Prop :=
  cs.map Char.toLower = (if b then "true" else "false").toList

/-- The text is the word for the truth value with white space around it. -/
def WritesBool (s : String) (b : Bool) : Prop :=
  ∃ left cs right, Text.Blank left ∧ Text.Blank right ∧ s.toList = left ++ cs ++ right ∧
    TruthWord cs b

theorem Text.toLower_of_isBlank {c : Char} (h : isBlank c = true) : c.toLower = c := by
  unfold Char.toLower
  rw [dif_neg]
  rintro ⟨hfirst, hlast⟩
  have hrange : 65 ≤ c.toNat ∧ c.toNat ≤ 90 := ⟨hfirst, hlast⟩
  simp [isBlank, inRanges, blankRanges] at h
  omega

/-- There is no white space in a word. -/
theorem TruthWord.trimmed {cs : List Char} {b : Bool} (h : TruthWord cs b) : Text.Trimmed cs := by
  refine Text.trimmed_of_no_blank fun c hc => Bool.eq_false_iff.mpr fun hblank => ?_
  -- white space has no case, so it would be a letter of the word itself
  have hmem : c.toLower ∈ (if b then "true" else "false").toList := h ▸ List.mem_map_of_mem hc
  rw [Text.toLower_of_isBlank hblank] at hmem
  have hletters : (if b then "true" else "false").toList.all (!Text.isBlank ·) = true := by
    cases b <;> decide
  have hletter := List.all_eq_true.mp hletters c hmem
  rw [hblank] at hletter
  cases hletter

theorem writesBool_iff {s : String} {b : Bool} :
    WritesBool s b ↔ TruthWord (Text.trim s.toList) b := by
  constructor
  · rintro ⟨left, cs, right, hleft, hright, hs, hcs⟩
    rwa [hs, Text.trim_padded hleft hright hcs.trimmed]
  · intro h
    obtain ⟨left, right, hleft, hright, hs⟩ := Text.exists_padding s.toList
    exact ⟨left, _, right, hleft, hright, hs, h⟩

theorem Decimal.splitSign_of_digits {ds : List Char} (h : ∀ d ∈ ds, d.isDigit = true) :
    splitSign ds = (false, ds) := by
  unfold splitSign
  split
  · cases h '-' List.mem_cons_self
  · cases h '+' List.mem_cons_self
  · rfl

namespace RawType

variable {cs : List Char} {t : RawType} {v : Value} {i : Int64}

/-- The values that texts of a type are converted to. -/
def Holds : RawType → Value → Prop
  | .int, v => ∃ i, v = .int i
  | .float, v => ∃ x, x.isFinite = true ∧ v = .float x
  | .bool, v => ∃ b, v = .bool b

theorem holds_of_read? (h : t.read? cs = some v) : t.Holds v := by
  cases t with
  | int =>
    obtain ⟨i, -, rfl⟩ := Option.map_eq_some_iff.mp h
    exact ⟨i, rfl⟩
  | float =>
    obtain ⟨x, hx, rfl⟩ := Option.map_eq_some_iff.mp h
    exact ⟨x, (Option.filter_eq_some_iff.mp hx).2, rfl⟩
  | bool =>
    obtain ⟨b, -, rfl⟩ := Option.map_eq_some_iff.mp h
    exact ⟨b, rfl⟩

theorem read?_nil (t : RawType) : t.read? [] = none := by
  cases t <;> rfl

/-- Exactly the numerals of integers with 64 bits are read as integers. -/
theorem int?_eq_some_iff : int? cs = some i ↔ Numeral cs i.toInt := by
  constructor
  · intro h
    rcases hsign : Decimal.splitSign cs with ⟨negative, digits⟩
    cases hvalue : Digits.value? digits with
    | none =>
      simp only [int?, hsign, hvalue] at h
      cases h
    | some n =>
      simp only [int?, hsign, hvalue] at h
      obtain ⟨hsome, hdigits, rfl⟩ := Digits.value?_eq_some_iff.mp hvalue
      rw [toInt_of_int64? h]
      unfold Decimal.splitSign at hsign
      split at hsign <;> cases hsign
      · exact .minus hsome hdigits
      · exact .plus hsome hdigits
      · exact .unsigned hsome hdigits
  · intro h
    have hfits := int64?_toInt i
    generalize i.toInt = n at h hfits
    cases h with
    | unsigned hsome hdigits =>
      rw [int?, Decimal.splitSign_of_digits hdigits]
      simp only [Digits.value?_eq_some_iff.mpr ⟨hsome, hdigits, rfl⟩]
      exact hfits
    | plus hsome hdigits | minus hsome hdigits =>
      simp only [int?, Decimal.splitSign, Digits.value?_eq_some_iff.mpr ⟨hsome, hdigits, rfl⟩]
      exact hfits

/-- Exactly the words for truth values are read as such. -/
theorem bool?_eq_some_iff {b : Bool} : bool? cs = some b ↔ TruthWord cs b := by
  unfold bool? TruthWord
  simp only
  split
  · rename_i htrue
    cases b <;> simp [htrue]
  · rename_i htrue
    split
    · rename_i hfalse
      cases b <;> simp [hfalse]
    · rename_i hfalse
      cases b <;> simp [htrue, hfalse]

theorem read?_eq_bool_iff {b : Bool} :
    t.read? cs = some (.bool b) ↔ t = .bool ∧ TruthWord cs b := by
  rw [← bool?_eq_some_iff]
  cases t with
  | int => simp [read?]
  | float => simp [read?]
  | bool => simp [read?]

theorem read?_eq_int_iff : t.read? cs = some (.int i) ↔ t = .int ∧ Numeral cs i.toInt := by
  rw [← int?_eq_some_iff]
  cases t with
  | int => simp [read?]
  | float => simp [read?]
  | bool => simp [read?]

end RawType

namespace Converter

/-- What becomes of a text: it stays if no type accepts it without the white space around it, and
otherwise the first type that does gives the value. -/
inductive Outcome (types : List RawType) (s : String) : Value → Prop
  | kept (hnone : ∀ t ∈ types, t.read? (Text.trim s.toList) = none) : Outcome types s (.str s)
  | read {before after : List RawType} {t : RawType} {v : Value}
      (htypes : types = before ++ t :: after)
      (hnone : ∀ u ∈ before, u.read? (Text.trim s.toList) = none)
      (hread : t.read? (Text.trim s.toList) = some v) (hholds : t.Holds v) : Outcome types s v

variable {c : Converter} {s : String} {v : Value}

/-- A text of white space alone needs no case of its own, for no type accepts it. -/
theorem convert_str (c : Converter) (s : String) :
    c.convert (.str s) = (c.read? (Text.trim s.toList)).getD (.str s) := by
  show (if (Text.trim s.toList).isEmpty then .str s
    else (c.read? (Text.trim s.toList)).getD (.str s)) = _
  split
  · next hempty =>
    have hnone : c.read? [] = none :=
      List.findSome?_eq_none_iff.mpr fun t _ => RawType.read?_nil t
    rw [List.isEmpty_iff.mp hempty, hnone]
    rfl
  · rfl

theorem outcome_convert (c : Converter) (s : String) :
    Outcome c.types s (c.convert (.str s)) := by
  rw [convert_str]
  cases hread : c.read? (Text.trim s.toList) with
  | none => exact .kept (List.findSome?_eq_none_iff.mp hread)
  | some v =>
    obtain ⟨before, t, after, htypes, ht, hbefore⟩ := List.findSome?_eq_some_iff.mp hread
    exact .read htypes hbefore ht (RawType.holds_of_read? ht)

theorem writesInt_of_convert {i : Int64} (h : c.convert (.str s) = .int i) :
    WritesInt s i.toInt := by
  have hout := c.outcome_convert s
  rw [h] at hout
  cases hout with
  | read _ _ hread _ => exact writesInt_iff.mpr (RawType.read?_eq_int_iff.mp hread).2

theorem writesBool_of_convert {b : Bool} (h : c.convert (.str s) = .bool b) : WritesBool s b := by
  have hout := c.outcome_convert s
  rw [h] at hout
  cases hout with
  | read _ _ hread _ => exact writesBool_iff.mpr (RawType.read?_eq_bool_iff.mp hread).2

/-- What the first type of the list accepts is converted to this type. -/
theorem convert_of_read? {t : RawType} (hfirst : c.types.head? = some t)
    (h : t.read? (Text.trim s.toList) = some v) : c.convert (.str s) = v := by
  obtain ⟨rest, hrest⟩ := List.head?_eq_some_iff.mp hfirst
  have hread : c.read? (Text.trim s.toList) = some v := by
    rw [read?, hrest, List.findSome?_cons, h]
  rw [convert_str, hread]
  rfl

theorem convert_of_writesInt {i : Int64} (hfirst : c.types.head? = some .int)
    (h : WritesInt s i.toInt) : c.convert (.str s) = .int i :=
  convert_of_read? hfirst (RawType.read?_eq_int_iff.mpr ⟨rfl, writesInt_iff.mp h⟩)

theorem convert_of_writesBool {b : Bool} (hfirst : c.types.head? = some .bool)
    (h : WritesBool s b) : c.convert (.str s) = .bool b :=
  convert_of_read? hfirst (RawType.read?_eq_bool_iff.mpr ⟨rfl, writesBool_iff.mp h⟩)

/-- The text form of an integer, with any white space around it, writes that integer. -/
theorem writesInt_text (i : Int64) {left right : List Char} (hleft : Text.Blank left)
    (hright : Text.Blank right) :
    WritesInt (String.ofList left ++ (Value.int i).text ++ String.ofList right) i.toInt := by
  refine ⟨left, Digits.ofInt i.toInt, right, hleft, hright, ?_, Numeral.ofInt i.toInt⟩
  simp only [String.toList_append, String.toList_ofList, Value.text, Value.chars]

/-- A converter changes texts only, and those that become integers or truth values exactly. -/
structure Exact (c : Converter) : Prop where
  twice : ∀ v, c.convert (c.convert v) = c.convert v
  others : ∀ v, v.str? = none → c.convert v = v
  texts : ∀ s, Outcome c.types s (c.convert (.str s))
  ints : ∀ s (i : Int64), c.convert (.str s) = .int i → WritesInt s i.toInt
  ints_first : c.types.head? = some .int → ∀ s (i : Int64), WritesInt s i.toInt →
    c.convert (.str s) = .int i
  bools : ∀ s b, c.convert (.str s) = .bool b → WritesBool s b
  bools_first : c.types.head? = some .bool → ∀ s b, WritesBool s b → c.convert (.str s) = .bool b
  padded : c.types.head? = some .int → ∀ (i : Int64) left right, Text.Blank left →
    Text.Blank right →
    c.convert (.str (String.ofList left ++ (Value.int i).text ++ String.ofList right)) = .int i

theorem converts_exactly (c : Converter) : c.Exact where
  twice := c.convert_convert
  others := fun _ hv => convert_of_str?_eq_none hv
  texts := c.outcome_convert
  ints := fun _ _ h => writesInt_of_convert h
  ints_first := fun hfirst _ _ h => convert_of_writesInt hfirst h
  bools := fun _ _ h => writesBool_of_convert h
  bools_first := fun hfirst _ _ h => convert_of_writesBool hfirst h
  padded := fun hfirst i _ _ hleft hright =>
    convert_of_writesInt hfirst (writesInt_text i hleft hright)

/-- The smallest integer is one, and so is the largest with a plus sign and a zero in front; one
more stays a text, and so does a sign without digits. -/
example :
    ["\u00A0-9223372036854775808\t", "+09223372036854775807 ", "9223372036854775808", " -"].map
      (fun s => ((⟨[.int]⟩ : Converter).convert (.str s)).label) =
        ["int", "int", "str", "str"] := by
  decide +kernel

end Converter

end TableFlow

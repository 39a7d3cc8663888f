import Mathlib.Data.List.Basic
import TableFlow.Text.Case

/-!
# Letter case that is mapped twice

What a table of letter case maps a character to is not mapped any further by the same table
(`mapCase_mapCase`). This is a property of the tables: the code points that a table maps and the
ones that it maps to have none in common, which is checked on the two sets as a whole. So `lower`
and `upper` change nothing the second time.

`capitalize` can, where the upper case of the first character has several characters: the second
time, all but the first of them are among the characters to be lowered. `capitalize_capitalize_iff`
says exactly when that makes a difference, and `capitalize_third` that there is no difference any
more the third time.
-/

namespace TableFlow.Text

/-! ## Sets of code points -/

/-- The set of some code points, as the bits of one number. -/
def codeSet (ns : List Nat) : Nat := ns.foldr (fun n set => 1 <<< n ||| set) 0

theorem testBit_codeSet {ns : List Nat} {n : Nat} : (codeSet ns).testBit n = true ↔ n ∈ ns := by
  induction ns with
  | nil => simp [codeSet]
  | cons m ns ih =>
    have hcons : codeSet (m :: ns) = 1 <<< m ||| codeSet ns := rfl
    rw [hcons, Nat.testBit_or, Bool.or_eq_true, ih, Nat.one_shiftLeft, Nat.testBit_two_pow,
      decide_eq_true_eq, List.mem_cons, eq_comm]

theorem not_mem_of_codeSet {ms ns : List Nat} (h : codeSet ms &&& codeSet ns = 0) {n : Nat}
    (hn : n ∈ ns) : n ∉ ms := by
  intro hm
  have hbit : (codeSet ms &&& codeSet ns).testBit n = true := by
    rw [Nat.testBit_and, testBit_codeSet.mpr hm, testBit_codeSet.mpr hn, Bool.and_true]
  rw [h, Nat.zero_testBit] at hbit
  exact Bool.false_ne_true hbit

/-! ## Tables -/

namespace CaseRun

/-- The code points of the run. -/
def members (r : CaseRun) : List Nat :=
  List.range' r.first ((r.last - r.first) / r.step + 1) r.step

theorem mem_members {r : CaseRun} {n : Nat} (h : r.holds n = true) : n ∈ r.members := by
  rw [holds, Bool.and_eq_true, Bool.and_eq_true, decide_eq_true_eq, decide_eq_true_eq,
    beq_iff_eq] at h
  obtain ⟨⟨hfirst, hlast⟩, hstep⟩ := h
  have hmul : r.step * ((n - r.first) / r.step) = n - r.first :=
    Nat.mul_div_cancel' (Nat.dvd_of_mod_eq_zero hstep)
  refine List.mem_range'.mpr ⟨(n - r.first) / r.step, ?_, by omega⟩
  exact Nat.lt_succ_of_le (Nat.div_le_div_right (by omega))

end CaseRun

/-- The code points that a table maps. -/
def sources (runs : List CaseRun) (special : List (Nat × List Nat)) : List Nat :=
  runs.flatMap CaseRun.members ++ special.map Prod.fst

/-- The code points that a table maps to. -/
def targets (runs : List CaseRun) (special : List (Nat × List Nat)) : List Nat :=
  runs.flatMap (fun r => r.members.map r.image) ++ special.flatMap Prod.snd

/-- The table maps nothing that it maps to. Nor does it map the null character, which a number that
is no code point is turned into. -/
def IsSettled (runs : List CaseRun) (special : List (Nat × List Nat)) : Prop :=
  codeSet (sources runs special) &&& codeSet (0 :: targets runs special) = 0

variable {runs : List CaseRun} {special : List (Nat × List Nat)}

theorem mapCase_of_not_mem {c : Char} (h : c.toNat ∉ sources runs special) :
    mapCase runs special c = [c] := by
  rw [sources, List.mem_append, not_or] at h
  obtain ⟨hruns, hspecial⟩ := h
  have hlookup : special.lookup c.toNat = none := by
    refine List.lookup_eq_none_iff.mpr fun e he => bne_iff_ne.mpr fun heq => ?_
    exact hspecial (List.mem_map.mpr ⟨e, he, heq.symm⟩)
  have hfind : runs.find? (fun r => r.holds c.toNat) = none :=
    List.find?_eq_none.mpr fun r hr hholds =>
      hruns (List.mem_flatMap.mpr ⟨r, hr, CaseRun.mem_members hholds⟩)
  simp only [mapCase, hlookup, mapRun, hfind]

/-- A character is its own image, or is written as one of the numbers that the table maps to. -/
theorem mem_mapCase {c d : Char} (h : d ∈ mapCase runs special c) :
    d = c ∧ mapCase runs special c = [c] ∨ ∃ n ∈ targets runs special, d = Char.ofNat n := by
  unfold mapCase at h ⊢
  split at h
  · next images hlookup =>
    obtain ⟨n, hn, rfl⟩ := List.mem_map.mp h
    obtain ⟨front, back, rfl, -⟩ := List.lookup_eq_some_iff.mp hlookup
    refine .inr ⟨n, List.mem_append_right _ (List.mem_flatMap.mpr ⟨(c.toNat, images), ?_, hn⟩), rfl⟩
    exact List.mem_append_cons_self
  · next hlookup =>
    obtain rfl := List.mem_singleton.mp h
    unfold mapRun
    split
    · next r hfind =>
      have hmem := List.mem_of_find?_eq_some hfind
      have hholds := List.find?_some (p := fun r : CaseRun => r.holds c.toNat) hfind
      refine .inr ⟨r.image c.toNat, List.mem_append_left _ ?_, rfl⟩
      exact List.mem_flatMap.mpr ⟨r, hmem, List.mem_map_of_mem (CaseRun.mem_members hholds)⟩
    · exact .inl ⟨rfl, rfl⟩

/-- What a character is mapped to stays as it is. -/
theorem mapCase_mapCase (hsettled : IsSettled runs special) {c d : Char}
    (h : d ∈ mapCase runs special c) : mapCase runs special d = [d] := by
  rcases mem_mapCase h with ⟨rfl, hself⟩ | ⟨n, hn, rfl⟩
  · exact hself
  · have hcode : (Char.ofNat n).toNat = n ∨ (Char.ofNat n).toNat = 0 := by
      by_cases hvalid : n.isValidChar
      · left
        rw [Char.ofNat, dif_pos hvalid]
        rfl
      · right
        rw [Char.ofNat, dif_neg hvalid]
        rfl
    apply mapCase_of_not_mem
    rcases hcode with hcode | hcode
    · rw [hcode]
      exact not_mem_of_codeSet hsettled (List.mem_cons_of_mem 0 hn)
    · rw [hcode]
      exact not_mem_of_codeSet hsettled List.mem_cons_self

theorem isSettled_lower : IsSettled lowerRuns lowerSpecial := by
  unfold IsSettled
  decide +kernel

theorem isSettled_upper : IsSettled upperRuns upperSpecial := by
  unfold IsSettled
  decide +kernel

theorem lowerChar_of_mem {c d : Char} (h : d ∈ lowerChar c) : lowerChar d = [d] :=
  mapCase_mapCase isSettled_lower h

theorem upperChar_of_mem {c d : Char} (h : d ∈ upperChar c) : upperChar d = [d] :=
  mapCase_mapCase isSettled_upper h

theorem mapCase_ne_nil (h : ∀ e ∈ special, e.2 ≠ []) (c : Char) : mapCase runs special c ≠ [] := by
  unfold mapCase
  split
  · next images hlookup =>
    obtain ⟨front, back, rfl, -⟩ := List.lookup_eq_some_iff.mp hlookup
    exact fun hnil => h (c.toNat, images) List.mem_append_cons_self (List.map_eq_nil_iff.mp hnil)
  · exact List.cons_ne_nil _ _

theorem upperChar_ne_nil (c : Char) : upperChar c ≠ [] :=
  mapCase_ne_nil (by decide) c

/-! ## Texts -/

theorem flatMap_eq_self {f : Char → List Char} {cs : List Char} (h : ∀ c ∈ cs, f c = [c]) :
    cs.flatMap f = cs := by
  rw [List.flatMap_congr h, List.flatMap_singleton']

theorem upper_upper (cs : List Char) : upper (upper cs) = upper cs := by
  refine flatMap_eq_self fun d hd => ?_
  obtain ⟨c, -, hc⟩ := List.mem_flatMap.mp hd
  exact upperChar_of_mem hc

/-- No character of the text is lowered to anything else. -/
def IsLow (cs : List Char) : Prop := ∀ c ∈ cs, lowerChar c = [c]

theorem isLow_flatMap (cs : List Char) : IsLow (cs.flatMap lowerChar) := by
  intro d hd
  obtain ⟨c, -, hc⟩ := List.mem_flatMap.mp hd
  exact lowerChar_of_mem hc

theorem isLow_lowerAfter (before cs : List Char) : IsLow (lowerAfter before cs) := by
  induction cs generalizing before with
  | nil => exact List.forall_mem_nil _
  | cons c cs ih =>
    refine List.forall_mem_append.mpr ⟨?_, ih _⟩
    split
    · refine List.forall_mem_singleton.mpr ?_
      unfold lowerSigma
      split <;> decide +kernel
    · exact fun d hd => lowerChar_of_mem hd

theorem lowerAfter_of_isLow {cs : List Char} (h : IsLow cs) (before : List Char) :
    lowerAfter before cs = cs := by
  induction cs generalizing before with
  | nil => rfl
  | cons c cs ih =>
    obtain ⟨hc, hcs⟩ := List.forall_mem_cons.mp h
    have hsigma : c ≠ 'Σ' := by
      rintro rfl
      exact absurd hc (by decide +kernel)
    rw [lowerAfter, if_neg hsigma, hc, ih hcs, List.singleton_append]

theorem lower_lower (cs : List Char) : lower (lower cs) = lower cs :=
  lowerAfter_of_isLow (isLow_lowerAfter [] cs) []

/-! ## Capitals -/

/-- In the upper case of the character, only the first character is a capital. -/
def OneCapital (c : Char) : Prop := IsLow (upperChar c).tail

instance (c : Char) : Decidable (OneCapital c) :=
  List.decidableBAll (fun d => lowerChar d = [d]) (upperChar c).tail

theorem capitalize_of_isLow {c : Char} {cs : List Char} (hc : upperChar c = [c]) (hcs : IsLow cs) :
    capitalize (c :: cs) = c :: cs := by
  rw [capitalize, hc, flatMap_eq_self hcs, List.singleton_append]

/-- The second time, what stands behind the first capital is lowered. -/
theorem capitalize_capitalize_cons {c d : Char} {ds : List Char} (h : upperChar c = d :: ds)
    (cs : List Char) :
    capitalize (capitalize (c :: cs)) = d :: (ds.flatMap lowerChar ++ cs.flatMap lowerChar) := by
  have hd : upperChar d = [d] := upperChar_of_mem (h ▸ List.mem_cons_self)
  have hcs : (cs.flatMap lowerChar).flatMap lowerChar = cs.flatMap lowerChar :=
    flatMap_eq_self (isLow_flatMap cs)
  rw [capitalize, h, List.cons_append, capitalize, hd, List.singleton_append, List.flatMap_append,
    hcs]

/-- Characters that are lowered to themselves as a whole are so one by one. -/
theorem flatMap_lowerChar_eq_self_iff {cs : List Char} : cs.flatMap lowerChar = cs ↔ IsLow cs :=
  ⟨fun h => h ▸ isLow_flatMap cs, flatMap_eq_self⟩

theorem capitalize_capitalize_iff {cs : List Char} :
    capitalize (capitalize cs) = capitalize cs ↔ ∀ c ∈ cs.head?, OneCapital c := by
  cases cs with
  | nil => simp [capitalize]
  | cons c cs =>
    obtain ⟨d, ds, h⟩ := List.exists_cons_of_ne_nil (upperChar_ne_nil c)
    have hone : capitalize (c :: cs) = d :: (ds ++ cs.flatMap lowerChar) := by
      rw [capitalize, h, List.cons_append]
    rw [capitalize_capitalize_cons h, hone, List.cons.injEq, List.append_cancel_right_eq,
      flatMap_lowerChar_eq_self_iff]
    simp [OneCapital, h]

theorem capitalize_third (cs : List Char) :
    capitalize (capitalize (capitalize cs)) = capitalize (capitalize cs) := by
  cases cs with
  | nil => rfl
  | cons c cs =>
    obtain ⟨d, ds, h⟩ := List.exists_cons_of_ne_nil (upperChar_ne_nil c)
    rw [capitalize_capitalize_cons h]
    refine capitalize_of_isLow (upperChar_of_mem (c := c) ?_) ?_
    · rw [h]
      exact List.mem_cons_self
    · exact List.forall_mem_append.mpr ⟨isLow_flatMap ds, isLow_flatMap cs⟩

end TableFlow.Text

import Mathlib.Data.List.DropRight
import TableFlow.Text.CharClass

/-!
# White space at the ends of texts

Every text is its trimmed form between two runs of white space (`Text.exists_padding`), and white
space around a text that neither begins nor ends with any is what trimming takes away
(`Text.trim_padded`). So a trimmed text is not trimmed any further.
-/

namespace TableFlow.Text

/-- All characters are white space. -/
def Blank (cs : List Char) : Prop := ∀ c ∈ cs, isBlank c = true

/-- The text neither begins nor ends with white space. -/
structure Trimmed (cs : List Char) : Prop where
  first : ∀ c, cs.head? = some c → isBlank c = false
  last : ∀ c, cs.getLast? = some c → isBlank c = false

theorem trimmed_of_no_blank {cs : List Char} (h : ∀ c ∈ cs, isBlank c = false) : Trimmed cs where
  first := fun c hc => h c (List.mem_of_mem_head? hc)
  last := fun c hc => h c (List.mem_of_mem_getLast? hc)

theorem dropWhile_of_head {cs : List Char} (h : ∀ c, cs.head? = some c → isBlank c = false) :
    cs.dropWhile isBlank = cs := by
  cases cs with
  | nil => rfl
  | cons c cs =>
    refine List.dropWhile_cons_of_neg ?_
    rw [h c rfl]
    exact Bool.false_ne_true

theorem head_dropWhile {cs : List Char} {c : Char}
    (h : (cs.dropWhile isBlank).head? = some c) : isBlank c = false := by
  have hfirst := List.head?_dropWhile_not isBlank cs
  rw [h] at hfirst
  exact hfirst

theorem trimmed_trim (cs : List Char) : Trimmed (trim cs) where
  first := by
    intro c hc
    -- what is left after the second run is dropped begins as before
    obtain ⟨rest, hrest⟩ : trim cs <+: cs.dropWhile isBlank :=
      List.rdropWhile_prefix isBlank _
    have hhead : (cs.dropWhile isBlank).head? = some c := by
      rw [← hrest, List.head?_append, hc, Option.some_or]
    exact head_dropWhile hhead
  last := by
    intro c hc
    rw [trim, List.getLast?_reverse] at hc
    exact head_dropWhile hc

theorem trim_of_trimmed {cs : List Char} (h : Trimmed cs) : trim cs = cs := by
  have hlast : ∀ c, cs.reverse.head? = some c → isBlank c = false := by
    intro c hc
    rw [List.head?_reverse] at hc
    exact h.last c hc
  rw [trim, dropWhile_of_head h.first, dropWhile_of_head hlast, List.reverse_reverse]

theorem trim_trim (cs : List Char) : trim (trim cs) = trim cs := trim_of_trimmed (trimmed_trim cs)

/-- White space around a text does not matter. -/
theorem trim_padded {left cs right : List Char} (hleft : Blank left) (hright : Blank right)
    (h : Trimmed cs) : trim (left ++ cs ++ right) = cs := by
  have hrest : (cs ++ right).dropWhile isBlank = cs ++ right ∨
      cs = [] ∧ (cs ++ right).dropWhile isBlank = [] := by
    cases cs with
    | nil => exact .inr ⟨rfl, List.dropWhile_eq_nil_iff.mpr hright⟩
    | cons c cs => exact .inl (dropWhile_of_head fun d hd => h.first d hd)
  rw [trim, List.append_assoc, List.dropWhile_append_of_pos hleft]
  rcases hrest with hrest | ⟨rfl, hrest⟩
  · have hblank : ∀ c ∈ right.reverse, isBlank c = true :=
      fun c hc => hright c (List.mem_reverse.mp hc)
    have hlast : ∀ c, cs.reverse.head? = some c → isBlank c = false := by
      intro c hc
      rw [List.head?_reverse] at hc
      exact h.last c hc
    rw [hrest, List.reverse_append, List.dropWhile_append_of_pos hblank, dropWhile_of_head hlast,
      List.reverse_reverse]
  · rw [hrest]
    rfl

/-- A text is its trimmed form between two runs of white space. -/
theorem exists_padding (cs : List Char) :
    ∃ left right, Blank left ∧ Blank right ∧ cs = left ++ trim cs ++ right := by
  have hsplit : cs.dropWhile isBlank =
      trim cs ++ ((cs.dropWhile isBlank).reverse.takeWhile isBlank).reverse := by
    rw [trim, ← List.reverse_append, List.takeWhile_append_dropWhile, List.reverse_reverse]
  refine ⟨cs.takeWhile isBlank, ((cs.dropWhile isBlank).reverse.takeWhile isBlank).reverse, ?_, ?_,
    ?_⟩
  · exact fun c hc => List.mem_takeWhile_imp hc
  · exact fun c hc => List.mem_takeWhile_imp (List.mem_reverse.mp hc)
  · rw [List.append_assoc, ← hsplit, List.takeWhile_append_dropWhile]

end TableFlow.Text

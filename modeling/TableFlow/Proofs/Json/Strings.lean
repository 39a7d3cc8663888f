import TableFlow.Json.Reader
import TableFlow.Json.Writer

/-!
# Strings in JSON texts

Main statement: `Json.stringBody?_escape`, the written form of a string is read as the
string, whatever characters it has. Characters are escaped one by one, so the induction
is on the string, with `Json.stringBody?_escapeChar` as its step.
-/

namespace TableFlow.Json

/-- The two digits of a control character stand for it. -/
theorem hex4?_control {n : Nat} (h : n < 0x20) :
    hex4? '0' '0' (hexChar (n / 16)) (hexChar (n % 16)) = some n := by
  have hall : ∀ n < 0x20, hex4? '0' '0' (hexChar (n / 16)) (hexChar (n % 16)) = some n := by
    decide
  exact hall n h

theorem stringBody?_escapeChar (c : Char) (rest : List Char) :
    stringBody? (escape c ++ rest) = (stringBody? rest).map fun (s, r) => (c :: s, r) := by
  unfold escape
  -- seven characters have an escape of their own
  split
  · subst_vars
    simp [stringBody?, shortEscape?]
  split
  · subst_vars
    simp [stringBody?, shortEscape?]
  split
  · subst_vars
    simp [stringBody?, shortEscape?]
  split
  · subst_vars
    simp [stringBody?, shortEscape?]
  split
  · subst_vars
    simp [stringBody?, shortEscape?]
  split
  · subst_vars
    simp [stringBody?, shortEscape?]
  split
  · subst_vars
    simp [stringBody?, shortEscape?]
  split
  · rename_i hcontrol
    -- the code of another control character is below those of the surrogates
    have hcode := hex4?_control hcontrol
    have hlow : ¬(0xD800 ≤ c.toNat ∧ c.toNat < 0xDC00) := by omega
    have hhigh : ¬(0xDC00 ≤ c.toNat ∧ c.toNat < 0xE000) := by omega
    simp only [List.cons_append, List.nil_append, stringBody?, hcode, if_neg hlow, if_neg hhigh,
      Char.ofNat_toNat]
  · rename_i hquote hback _ _ _ _ _ hcontrol
    -- any other character stands for itself, and the reader takes it as it is
    have hplain : (decide (c.toNat < 0x20) || decide (c = '\\')) = false := by
      simp [hcontrol, hback]
    rw [List.cons_append, List.nil_append, stringBody?.eq_def]
    split
    · simp_all
    · simp_all
    · simp_all
    · simp_all
    · rename_i heq
      cases heq
      rw [hplain]
      rfl

/-- A written string is read up to its closing quote. -/
theorem stringBody?_escape (cs rest : List Char) :
    stringBody? (cs.flatMap escape ++ '"' :: rest) = some (cs, rest) := by
  induction cs with
  | nil => rfl
  | cons c cs ih =>
    rw [List.flatMap_cons, List.append_assoc, stringBody?_escapeChar, ih]
    rfl

theorem stringBody?_stringText (s : String) (rest : List Char) :
    ∃ body, stringText s ++ rest = '"' :: body ∧ stringBody? body = some (s.toList, rest) := by
  refine ⟨s.toList.flatMap escape ++ '"' :: rest, ?_, stringBody?_escape s.toList rest⟩
  simp [stringText]

end TableFlow.Json

import TableFlow.Proofs.Json.Number
import TableFlow.Proofs.Json.Strings

/-!
# Reading written documents

Layouts differ in their blanks only, and a document that is written in any of them is
read back.

* `Json.value?_write` is a document in front of any text that does not go on with a
  number, by induction on the document;
* `Json.parse?_write` is a whole text.

A document is read back if its numbers are whole and fit in 64 bits (`Json.Plain`), and
if it is not nested deeper than the reader goes. The reader has fuel for two steps a
character: one for the value that starts there, and one for the list that it is in.
-/

namespace TableFlow.Json

/-! ## Blanks -/

theorem skip_blank {b : List Char} (hb : Blank b) (cs : List Char) : skip (b ++ cs) = skip cs :=
  List.dropWhile_append_of_pos hb

theorem skip_of_not_space {c : Char} (hc : isSpace c = false) (cs : List Char) :
    skip (c :: cs) = c :: cs := by
  simp [skip, hc]

theorem skip_skip (cs : List Char) : skip (skip cs) = skip cs := by
  induction cs with
  | nil => rfl
  | cons c cs ih =>
    by_cases hc : isSpace c = true
    · simpa [skip, hc] using ih
    · have hc : isSpace c = false := by simpa using hc
      rw [skip_of_not_space hc, skip_of_not_space hc]

theorem value?_skip (fuel depth : Nat) (cs : List Char) :
    value? fuel depth (skip cs) = value? fuel depth cs := by
  cases fuel with
  | zero => rfl
  | succ fuel => rw [value?, value?, skip_skip]

theorem items?_skip (fuel depth : Nat) (cs : List Char) :
    items? fuel depth (skip cs) = items? fuel depth cs := by
  cases fuel with
  | zero => rfl
  | succ fuel => rw [items?, items?, value?_skip]

theorem members?_skip (fuel depth : Nat) (cs : List Char) :
    members? fuel depth (skip cs) = members? fuel depth cs := by
  cases fuel with
  | zero => rfl
  | succ fuel => rw [members?, members?, skip_skip]

/-- A blank in front of a comma or a bracket ends a number. -/
theorem ends_blank {b : List Char} (hb : Blank b) {c : Char}
    (hc : c = ',' ∨ c = ']' ∨ c = '\x7d') (rest : List Char) :
    JsonNumber.Ends (b ++ c :: rest) := by
  intro first hfirst
  cases b with
  | nil =>
    cases hfirst
    rcases hc with rfl | rfl | rfl <;> decide
  | cons space b =>
    cases hfirst
    -- none of the four blanks belongs to a number
    have hspace : isSpace first = true := hb first List.mem_cons_self
    simp only [isSpace, Bool.or_eq_true, decide_eq_true_eq] at hspace
    rcases hspace with ((rfl | rfl) | rfl) | rfl <;> decide

theorem ends_comma (rest : List Char) : JsonNumber.Ends (',' :: rest) :=
  ends_blank (b := []) (by simp [Blank]) (by simp) rest

/-! ## Documents that are read back -/

mutual

/-- All numbers are whole, and fit in 64 bits with or without a sign. -/
def Plain : Json → Prop
  | .num text => ∃ i, JsonNumber.InWord i ∧ text = Digits.ofInt i
  | .arr items => PlainItems items
  | .obj members => PlainMembers members
  | .null | .bool _ | .str _ => True

def PlainItems : List Json → Prop
  | [] => True
  | j :: js => Plain j ∧ PlainItems js

def PlainMembers : List (String × Json) → Prop
  | [] => True
  | (_, j) :: ms => Plain j ∧ PlainMembers ms

end

mutual

/-- How deep arrays and objects are nested. -/
def depth : Json → Nat
  | .arr items => depthItems items + 1
  | .obj members => depthMembers members + 1
  | .null | .bool _ | .num _ | .str _ => 0

def depthItems : List Json → Nat
  | [] => 0
  | j :: js => max (depth j) (depthItems js)

def depthMembers : List (String × Json) → Nat
  | [] => 0
  | (_, j) :: ms => max (depth j) (depthMembers ms)

end

/-! ## One step of the reader -/

/-- A number starts with a sign or a digit. -/
theorem ofInt_starts (i : Int) :
    ∃ c cs, Digits.ofInt i = c :: cs ∧ (c = '-' ∨ (Digits.digit? c).isSome = true) := by
  unfold Digits.ofInt
  split
  · exact ⟨'-', _, rfl, Or.inl rfl⟩
  · cases hdigits : Digits.ofNat i.natAbs with
    | nil => exact absurd hdigits (Digits.ofNat_ne_nil _)
    | cons c cs =>
      exact ⟨c, cs, rfl, Or.inr (Digits.isDigit_of_mem_ofNat (n := i.natAbs) (by simp [hdigits]))⟩

theorem not_space_of_number {c : Char} (hc : c = '-' ∨ (Digits.digit? c).isSome = true) :
    isSpace c = false := by
  cases hspace : isSpace c with
  | false => rfl
  | true =>
    simp only [isSpace, Bool.or_eq_true, decide_eq_true_eq] at hspace
    rcases hspace with ((rfl | rfl) | rfl) | rfl <;> simp [Digits.digit?] at hc

theorem value?_num (i : Int) (fuel depth : Nat) {rest : List Char}
    (hrest : JsonNumber.Ends rest) :
    value? (fuel + 1) depth (Digits.ofInt i ++ rest) = some (.num (Digits.ofInt i), rest) := by
  obtain ⟨c, cs, htext, hc⟩ := ofInt_starts i
  have hskip : skip (Digits.ofInt i ++ rest) = Digits.ofInt i ++ rest := by
    rw [htext]
    exact skip_of_not_space (not_space_of_number hc) _
  -- the other kinds of documents start with characters that no number starts with
  have hother : ∀ d, d ≠ '-' → (Digits.digit? d).isSome = false → ∀ more,
      Digits.ofInt i ++ rest ≠ d :: more := by
    intro d hminus hdigit more heq
    rw [htext] at heq
    cases heq
    rcases hc with rfl | hsome
    · exact hminus rfl
    · rw [hdigit] at hsome
      cases hsome
  rw [value?, hskip]
  split
  · rename_i heq
    exact absurd heq (hother 'n' (by decide) rfl _)
  · rename_i heq
    exact absurd heq (hother 't' (by decide) rfl _)
  · rename_i heq
    exact absurd heq (hother 'f' (by decide) rfl _)
  · rename_i heq
    exact absurd heq (hother '"' (by decide) rfl _)
  · rename_i heq
    exact absurd heq (hother '[' (by decide) rfl _)
  · rename_i heq
    exact absurd heq (hother '\x7b' (by decide) rfl _)
  · rw [JsonNumber.split?_ofInt i hrest]
    simp

theorem value?_arr {cs : List Char} (hcs : ∀ more, skip cs ≠ ']' :: more) (fuel depth : Nat) :
    value? (fuel + 1) (depth + 1) ('[' :: cs) =
      (items? fuel depth cs).map fun (js, r) => (.arr js, r) := by
  rw [value?, skip_of_not_space rfl]
  simp only
  rw [items?_skip]

theorem value?_obj {cs : List Char} (hcs : ∀ more, skip cs ≠ '\x7d' :: more) (fuel depth : Nat) :
    value? (fuel + 1) (depth + 1) ('\x7b' :: cs) =
      (members? fuel depth cs).map fun (ms, r) => (.obj ms, r) := by
  rw [value?, skip_of_not_space rfl]
  simp only
  rw [members?_skip]

section Lists

variable {fuel depth : Nat} {cs rest b : List Char} {j : Json}

/-- The last item of an array. -/
theorem items?_last (hb : Blank b) (h : value? fuel depth cs = some (j, b ++ ']' :: rest)) :
    items? (fuel + 1) depth cs = some ([j], rest) := by
  rw [items?, h]
  simp only
  rw [skip_blank hb, skip_of_not_space rfl]
  rfl

/-- An item that others follow. -/
theorem items?_more (h : value? fuel depth cs = some (j, ',' :: rest)) :
    items? (fuel + 1) depth cs = (items? fuel depth rest).map fun (js, r) => (j :: js, r) := by
  rw [items?, h]
  simp only
  rw [skip_of_not_space rfl]
  rfl

/-- The last member of an object. -/
theorem members?_last (hb : Blank b) (name : String)
    (h : value? fuel depth cs = some (j, b ++ '\x7d' :: rest)) :
    members? (fuel + 1) depth (stringText name ++ ':' :: cs) = some ([(name, j)], rest) := by
  obtain ⟨body, htext, hbody⟩ := stringBody?_stringText name (':' :: cs)
  rw [htext, members?, skip_of_not_space rfl]
  simp only [hbody]
  rw [skip_of_not_space rfl]
  simp only [h]
  rw [skip_blank hb, skip_of_not_space rfl]
  simp only [String.ofList_toList]

/-- A member that others follow. -/
theorem members?_more (name : String) (h : value? fuel depth cs = some (j, ',' :: rest)) :
    members? (fuel + 1) depth (stringText name ++ ':' :: cs) =
      (members? fuel depth rest).map fun (ms, r) => ((name, j) :: ms, r) := by
  obtain ⟨body, htext, hbody⟩ := stringBody?_stringText name (':' :: cs)
  rw [htext, members?, skip_of_not_space rfl]
  simp only [hbody]
  rw [skip_of_not_space rfl]
  simp only [h]
  rw [skip_of_not_space rfl]
  simp only [String.ofList_toList]

end Lists

/-! ## Reading back -/

namespace Layout

/-- A document starts with a character that is no blank and ends no array. -/
theorem write_starts (l : Layout) (level : Nat) {j : Json} (hplain : j.Plain) :
    ∃ c cs, l.write level j = c :: cs ∧ isSpace c = false ∧ c ≠ ']' := by
  cases j with
  | null => exact ⟨_, _, rfl, rfl, by decide⟩
  | bool b => cases b <;> exact ⟨_, _, rfl, rfl, by decide⟩
  | str s => exact ⟨_, _, rfl, rfl, by decide⟩
  | num text =>
    obtain ⟨i, -, rfl⟩ := hplain
    obtain ⟨c, cs, htext, hc⟩ := ofInt_starts i
    refine ⟨c, cs, htext, not_space_of_number hc, ?_⟩
    rintro rfl
    simp [Digits.digit?] at hc
  | arr items => cases items <;> exact ⟨_, _, rfl, rfl, by decide⟩
  | obj members => cases members <;> exact ⟨_, _, rfl, rfl, by decide⟩

theorem write_length_pos (l : Layout) (level : Nat) {j : Json} (hplain : j.Plain) :
    0 < (l.write level j).length := by
  obtain ⟨c, cs, htext, -⟩ := l.write_starts level hplain
  simp [htext]

theorem writeItems_starts (l : Layout) (level : Nat) (j : Json) (js : List Json) :
    ∃ tail, l.writeItems level (j :: js) = l.newline level ++ (l.write level j ++ tail) := by
  cases js with
  | nil => exact ⟨[], by simp [writeItems]⟩
  | cons k js => exact ⟨',' :: l.writeItems level (k :: js), by simp [writeItems]⟩

theorem writeMembers_starts (l : Layout) (level : Nat) (m : String × Json)
    (ms : List (String × Json)) :
    ∃ tail, l.writeMembers level (m :: ms) = l.newline level ++ '"' :: tail := by
  obtain ⟨name, j⟩ := m
  cases ms with
  | nil =>
    refine ⟨name.toList.flatMap escape ++ '"' :: ':' :: (l.space ++ l.write level j), ?_⟩
    simp [writeMembers, stringText]
  | cons m ms =>
    refine ⟨name.toList.flatMap escape ++ '"' :: ':' :: (l.space ++ l.write level j) ++
      ',' :: l.writeMembers level (m :: ms), ?_⟩
    simp [writeMembers, stringText]

/-- Items do not start with the end of an array. -/
theorem skip_writeItems (l : Layout) (level : Nat) {j : Json} (hplain : j.Plain)
    (js : List Json) (rest more : List Char) :
    skip (l.writeItems level (j :: js) ++ rest) ≠ ']' :: more := by
  obtain ⟨tail, hitems⟩ := l.writeItems_starts level j js
  obtain ⟨c, cs, htext, hspace, hc⟩ := l.write_starts level hplain
  intro heq
  rw [hitems, htext, List.append_assoc, skip_blank (l.newline_blank level), List.cons_append,
    List.cons_append, skip_of_not_space hspace] at heq
  exact hc (List.cons.inj heq).1

/-- Members do not start with the end of an object. -/
theorem skip_writeMembers (l : Layout) (level : Nat) (m : String × Json)
    (ms : List (String × Json)) (rest more : List Char) :
    skip (l.writeMembers level (m :: ms) ++ rest) ≠ '\x7d' :: more := by
  obtain ⟨tail, hmembers⟩ := l.writeMembers_starts level m ms
  intro heq
  rw [hmembers, List.append_assoc, skip_blank (l.newline_blank level), List.cons_append,
    skip_of_not_space rfl] at heq
  cases heq

end Layout

mutual

theorem value?_write (l : Layout) : ∀ (j : Json) (level fuel depth : Nat) (rest : List Char),
    j.Plain → j.depth ≤ depth → 2 * (l.write level j).length ≤ fuel → JsonNumber.Ends rest →
      value? fuel depth (l.write level j ++ rest) = some (j, rest)
  | j, level, 0, _, _, hplain, _, hfuel, _ => by
    -- every document has a character, and that character brought fuel
    have hpos := l.write_length_pos level hplain
    omega
  | .null, _, fuel + 1, _, _, _, _, _, _ => by
    simp [Layout.write, value?, skip, isSpace]
  | .bool true, _, fuel + 1, _, _, _, _, _, _ => by
    simp [Layout.write, value?, skip, isSpace]
  | .bool false, _, fuel + 1, _, _, _, _, _, _ => by
    simp [Layout.write, value?, skip, isSpace]
  | .num text, _, fuel + 1, depth, rest, hplain, _, _, hrest => by
    obtain ⟨i, -, rfl⟩ := hplain
    exact value?_num i fuel depth hrest
  | .str s, _, fuel + 1, depth, rest, _, _, _, _ => by
    obtain ⟨body, htext, hbody⟩ := stringBody?_stringText s rest
    rw [Layout.write, htext]
    simp [value?, skip, isSpace, hbody]
  | .arr items, level, fuel + 1, 0, rest, hplain, hdepth, hfuel, hrest => by
    simp [Json.depth] at hdepth
  | .arr [], _, fuel + 1, depth + 1, rest, _, _, _, _ => by
    simp [Layout.write, value?, skip, isSpace]
  | .arr (j :: js), level, fuel + 1, depth + 1, rest, hplain, hdepth, hfuel, hrest => by
    simp only [Layout.write, List.length_append, List.length_cons, List.length_nil] at hfuel
    -- the two brackets bring four steps: one for this value, and one for the list of items
    have hitems := items?_write l (j :: js) (level + 1) fuel depth rest (l.newline level)
      (by simp) hplain (by simpa [Json.depth] using hdepth) (by omega) (l.newline_blank level)
    have hstart := l.skip_writeItems (level + 1) hplain.1 js (l.newline level ++ ']' :: rest)
    simp only [Layout.write, List.cons_append, List.append_assoc, List.nil_append]
    rw [value?_arr hstart, hitems]
    rfl
  | .obj members, level, fuel + 1, 0, rest, hplain, hdepth, hfuel, hrest => by
    simp [Json.depth] at hdepth
  | .obj [], _, fuel + 1, depth + 1, rest, _, _, _, _ => by
    simp [Layout.write, value?, skip, isSpace]
  | .obj (m :: ms), level, fuel + 1, depth + 1, rest, hplain, hdepth, hfuel, hrest => by
    simp only [Layout.write, List.length_append, List.length_cons, List.length_nil] at hfuel
    have hmembers := members?_write l (m :: ms) (level + 1) fuel depth rest (l.newline level)
      (by simp) hplain (by simpa [Json.depth] using hdepth) (by omega) (l.newline_blank level)
    have hstart := l.skip_writeMembers (level + 1) m ms (l.newline level ++ '\x7d' :: rest)
    simp only [Layout.write, List.cons_append, List.append_assoc, List.nil_append]
    rw [value?_obj hstart, hmembers]
    rfl

theorem items?_write (l : Layout) :
    ∀ (js : List Json) (level fuel depth : Nat) (rest b : List Char),
      js ≠ [] → PlainItems js → depthItems js ≤ depth →
        2 * (l.writeItems level js).length + 1 ≤ fuel → Blank b →
          items? fuel depth (l.writeItems level js ++ (b ++ ']' :: rest)) = some (js, rest)
  | [], _, _, _, _, _, hsome, _, _, _, _ => by
    exact absurd rfl hsome
  | _ :: _, _, 0, _, _, _, _, _, _, hfuel, _ => by
    omega
  | [j], level, fuel + 1, depth, rest, b, _, hplain, hdepth, hfuel, hb => by
    simp only [Layout.writeItems, List.length_append] at hfuel
    -- what ends the last item is the blank in front of the bracket, or the bracket
    have hj := value?_write l j level fuel depth (b ++ ']' :: rest) hplain.1
      (by simpa [depthItems] using hdepth) (by omega) (ends_blank hb (by simp) rest)
    simp only [Layout.writeItems, List.append_assoc]
    rw [← items?_skip, skip_blank (l.newline_blank level), items?_skip]
    exact items?_last hb hj
  | j :: k :: js, level, fuel + 1, depth, rest, b, _, hplain, hdepth, hfuel, hb => by
    simp only [Layout.writeItems, List.length_append, List.length_cons] at hfuel
    simp only [depthItems] at hdepth
    have hj := value?_write l j level fuel depth
      (',' :: (l.writeItems level (k :: js) ++ (b ++ ']' :: rest))) hplain.1
      (by omega) (by omega) (ends_comma _)
    have hjs := items?_write l (k :: js) level fuel depth rest b (by simp) hplain.2
      (by simp only [depthItems]; omega) (by omega) hb
    simp only [Layout.writeItems, List.append_assoc, List.cons_append]
    rw [← items?_skip, skip_blank (l.newline_blank level), items?_skip, items?_more hj, hjs]
    rfl

theorem members?_write (l : Layout) :
    ∀ (ms : List (String × Json)) (level fuel depth : Nat) (rest b : List Char),
      ms ≠ [] → PlainMembers ms → depthMembers ms ≤ depth →
        2 * (l.writeMembers level ms).length + 1 ≤ fuel → Blank b →
          members? fuel depth (l.writeMembers level ms ++ (b ++ '\x7d' :: rest)) =
            some (ms, rest)
  | [], _, _, _, _, _, hsome, _, _, _, _ => by
    exact absurd rfl hsome
  | _ :: _, _, 0, _, _, _, _, _, _, hfuel, _ => by
    omega
  | [(name, j)], level, fuel + 1, depth, rest, b, _, hplain, hdepth, hfuel, hb => by
    simp only [Layout.writeMembers, List.length_append, List.length_cons] at hfuel
    have hj := value?_write l j level fuel depth (b ++ '\x7d' :: rest) hplain.1
      (by simpa [depthMembers] using hdepth) (by omega) (ends_blank hb (by simp) rest)
    -- a value may have blanks in front, so the one behind the colon does not matter
    have hspaced : value? fuel depth (l.space ++ (l.write level j ++ (b ++ '\x7d' :: rest))) =
        some (j, b ++ '\x7d' :: rest) := by
      rw [← value?_skip, skip_blank l.space_blank, value?_skip, hj]
    simp only [Layout.writeMembers, List.append_assoc, List.cons_append]
    rw [← members?_skip, skip_blank (l.newline_blank level), members?_skip]
    exact members?_last hb name hspaced
  | (name, j) :: m :: ms, level, fuel + 1, depth, rest, b, _, hplain, hdepth, hfuel, hb => by
    simp only [Layout.writeMembers, List.length_append, List.length_cons] at hfuel
    simp only [depthMembers] at hdepth
    have hj := value?_write l j level fuel depth
      (',' :: (l.writeMembers level (m :: ms) ++ (b ++ '\x7d' :: rest))) hplain.1
      (by omega) (by omega) (ends_comma _)
    have hspaced : value? fuel depth (l.space ++ (l.write level j ++
        ',' :: (l.writeMembers level (m :: ms) ++ (b ++ '\x7d' :: rest)))) =
          some (j, ',' :: (l.writeMembers level (m :: ms) ++ (b ++ '\x7d' :: rest))) := by
      rw [← value?_skip, skip_blank l.space_blank, value?_skip, hj]
    have hms := members?_write l (m :: ms) level fuel depth rest b (by simp) hplain.2
      (by simp only [depthMembers]; omega) (by omega) hb
    simp only [Layout.writeMembers, List.append_assoc, List.cons_append]
    rw [← members?_skip, skip_blank (l.newline_blank level), members?_skip,
      members?_more name hspaced, hms]
    rfl

end

/-- A written document is read back. -/
theorem parse?_write (l : Layout) {j : Json} (hplain : j.Plain) (hdepth : j.depth ≤ maxDepth) :
    parse? (l.write 0 j) = some j := by
  -- the fuel of the reader is that of the text, and two steps more than it needs
  have hvalue := value?_write l j 0 (2 * (l.write 0 j).length + 2) maxDepth [] hplain hdepth
    (by omega) JsonNumber.ends_nil
  rw [List.append_nil] at hvalue
  rw [parse?, hvalue]
  rfl

end TableFlow.Json

import TableFlow.Proofs.Json.Layout
import TableFlow.Spec.Json

/-!
# Decoding what was encoded

The parts of which records are made: lists, mappings, whole numbers and fields that may
be absent. Each is decoded to what it was encoded from, if this holds of its own parts.

* `Json.array?_map` and `Json.mapping?_ofMapping` are lists and mappings;
* `Json.Fields.required_cons` and its like find a field by its name, or go past it;
* `Json.inRange_of_plain` is the check that a tagged record has to pass.
-/

namespace TableFlow

/-! ## Mappings -/

namespace Mapping

variable {α : Type}

/-- A new name is put at the end. -/
theorem setEntry_of_not_mem {name : String} {a : α} {entries : List (String × α)}
    (hnew : name ∉ entries.map Prod.fst) : setEntry name a entries = entries ++ [(name, a)] := by
  induction entries with
  | nil => rfl
  | cons entry entries ih =>
    rw [List.map_cons, List.mem_cons, not_or] at hnew
    rw [setEntry, if_neg (Ne.symm hnew.1), ih hnew.2]
    rfl

/-- The mapping of pairs with different names has these pairs. -/
theorem ofPairs_entries (m : Mapping α) : ofPairs m.entries = m := by
  -- names that are all different are put in behind one another, in their order
  have hfold : ∀ (entries : List (String × α)) (front : Mapping α),
      ((front.entries ++ entries).map Prod.fst).Nodup →
        (entries.foldl (fun m entry => m.set entry.1 entry.2) front).entries =
          front.entries ++ entries := by
    intro entries
    induction entries with
    | nil => simp
    | cons entry entries ih =>
      intro front hnd
      have hset : (front.set entry.1 entry.2).entries = front.entries ++ [entry] := by
        refine setEntry_of_not_mem fun hmem => ?_
        rw [List.map_append, List.map_cons, List.nodup_append] at hnd
        exact hnd.2.2 _ hmem _ List.mem_cons_self rfl
      rw [List.foldl_cons, ih (front.set entry.1 entry.2) (by rw [hset]; simpa using hnd), hset]
      simp
  obtain ⟨entries, nodup⟩ := m
  have hentries : (ofPairs entries).entries = entries := hfold entries default nodup
  cases hpairs : ofPairs entries with
  | mk read _ =>
    rw [hpairs] at hentries
    cases hentries
    rfl

end Mapping

namespace Json

/-! ## Lists, mappings and numbers -/

variable {α β : Type} {encode : α → Json} {decode : Json → Option β}

theorem array?_map (f : α → β) (as : List α) (h : ∀ a ∈ as, decode (encode a) = some (f a)) :
    array? decode (.arr (as.map encode)) = some (as.map f) := by
  rw [array?]
  induction as with
  | nil => rfl
  | cons a as ih =>
    obtain ⟨ha, has⟩ := List.forall_mem_cons.mp h
    rw [List.map_cons, List.mapM_cons, ha, ih has]
    rfl

@[simp]
theorem strings?_ofStrings (names : List String) : strings? (ofStrings names) = some names := by
  have harray : array? string? (.arr (names.map Json.str)) = some (names.map id) :=
    array?_map id names fun _ _ => rfl
  rw [List.map_id] at harray
  exact harray

theorem mapping?_ofMapping {decode : Json → Option α} {m : Mapping α}
    (h : ∀ a ∈ m.values, decode (encode a) = some a) :
    mapping? decode (ofMapping encode m) = some m := by
  have hentries : ∀ entries : List (String × α),
      (∀ entry ∈ entries, decode (encode entry.2) = some entry.2) →
        entries? decode (.obj (entries.map fun entry => (entry.1, encode entry.2))) = some entries := by
    intro entries hall
    rw [entries?]
    induction entries with
    | nil => rfl
    | cons entry entries ih =>
      obtain ⟨hentry, hrest⟩ := List.forall_mem_cons.mp hall
      rw [List.map_cons, List.mapM_cons]
      simp only [hentry]
      rw [ih hrest]
      rfl
  rw [mapping?, ofMapping, hentries m.entries fun entry hmem => h _ (List.mem_map_of_mem hmem)]
  exact congrArg some m.ofPairs_entries

@[simp]
theorem word?_ofWord (n : UInt64) : word? (ofWord n) = some n := by
  have htext : Digits.ofNat n.toNat = Digits.ofInt n.toNat := by
    rw [Digits.ofInt, if_neg (by omega)]
    rfl
  rw [ofWord, ofNat, word?, htext, JsonNumber.ofText?_ofInt (JsonNumber.inWord_toNat n)]
  simp

/-! ## Fields -/

theorem nullable?_of_decoded {j : Json} {b : β} (hj : j ≠ .null) (h : decode j = some b) :
    nullable? decode j = some (some b) := by
  have hmap : nullable? decode j = (decode j).map some := by
    cases j with
    | null => exact absurd rfl hj
    | bool _ | num _ | str _ | arr _ | obj _ => rfl
  rw [hmap, h]
  rfl

@[simp]
theorem nullable?_string (s : String) : nullable? string? (.str s) = some (some s) := rfl

@[simp]
theorem nullable?_strings (names : List String) :
    nullable? strings? (ofStrings names) = some (some names) :=
  nullable?_of_decoded (by simp [ofStrings]) (strings?_ofStrings names)

@[simp]
theorem nullable?_word (n : UInt64) : nullable? word? (ofWord n) = some (some n) :=
  nullable?_of_decoded (by simp [ofWord, Json.ofNat]) (word?_ofWord n)

namespace Fields

variable {fields : Fields} {name other : String} {j : Json}

theorem lookup_cons : List.lookup name ((other, j) :: fields) =
    if name = other then some j else List.lookup name fields := by
  rw [List.lookup_cons]
  by_cases hname : name = other
  · simp [hname]
  · simp [hname, beq_false_of_ne hname]

@[simp]
theorem required_cons : required ((other, j) :: fields) name decode =
    if name = other then decode j else required fields name decode := by
  unfold required
  rw [lookup_cons]
  by_cases hname : name = other <;> simp [hname]

@[simp]
theorem defaulted_cons (default : β) : defaulted ((other, j) :: fields) name decode default =
    if name = other then decode j else defaulted fields name decode default := by
  unfold defaulted
  rw [lookup_cons]
  by_cases hname : name = other <;> simp [hname]

@[simp]
theorem optional_cons : optional ((other, j) :: fields) name decode =
    if name = other then nullable? decode j else optional fields name decode := by
  unfold optional
  rw [lookup_cons]
  by_cases hname : name = other <;> simp [hname]

@[simp]
theorem optional_nil : optional [] name decode = some none := rfl

end Fields

/-! ## Tags -/

theorem tagged?_cons {tag : String} {j : Json} {members : List (String × Json)}
    (hother : tag ∉ members.map Prod.fst) :
    tagged? tag (.obj ((tag, j) :: members)) = some (j, .obj members) := by
  have hapart : ∀ m ∈ members, m.1 ≠ tag := by
    intro m hm heq
    exact hother (heq ▸ List.mem_map_of_mem hm)
  have hnone : members.filter (fun m => m.1 == tag) = [] := by
    rw [List.filter_eq_nil_iff]
    intro m hm
    simpa using hapart m hm
  have hrest : members.filter (fun m => m.1 != tag) = members := by
    rw [List.filter_eq_self]
    intro m hm
    simpa using hapart m hm
  simp [tagged?, hnone, hrest]

/-! ## Plain documents -/

theorem plainItems_iff {items : List Json} : PlainItems items ↔ ∀ j ∈ items, j.Plain := by
  induction items with
  | nil => simp [PlainItems]
  | cons j js ih => rw [PlainItems, ih, List.forall_mem_cons]

theorem plainMembers_iff {members : List (String × Json)} :
    PlainMembers members ↔ ∀ m ∈ members, m.2.Plain := by
  induction members with
  | nil => simp [PlainMembers]
  | cons m ms ih => rw [PlainMembers, ih, List.forall_mem_cons]

theorem plain_of_mem_present {name : String} {encode : α → Json} {o : Option α}
    (hplain : ∀ a, o = some a → (encode a).Plain) :
    ∀ m ∈ present name encode o, m.2.Plain := by
  cases o with
  | none => simp [present]
  | some a => simpa [present] using hplain a rfl

theorem ofStrings_plain (names : List String) : (ofStrings names).Plain := by
  refine plainItems_iff.mpr ?_
  intro j hj
  obtain ⟨name, -, rfl⟩ := List.mem_map.mp hj
  exact trivial

theorem ofWord_plain (n : UInt64) : (ofWord n).Plain := by
  refine ⟨n.toNat, JsonNumber.inWord_toNat n, ?_⟩
  rw [Digits.ofInt, if_neg (by omega)]
  rfl

theorem ofMapping_plain {encode : α → Json} {m : Mapping α}
    (hplain : ∀ a ∈ m.values, (encode a).Plain) : (ofMapping encode m).Plain := by
  refine plainMembers_iff.mpr ?_
  intro member hmember
  obtain ⟨entry, hentry, rfl⟩ := List.mem_map.mp hmember
  exact hplain entry.2 (List.mem_map_of_mem hentry)

mutual

theorem inRange_of_plain : ∀ {j : Json}, j.Plain → j.inRange = true
  | .null, _ => rfl
  | .bool _, _ => rfl
  | .str _, _ => rfl
  | .num _, ⟨i, hword, htext⟩ => by
    rw [inRange, htext, JsonNumber.ofText?_ofInt hword]
    rfl
  | .arr _, hplain => inRangeItems_of_plain hplain
  | .obj _, hplain => inRangeMembers_of_plain hplain

theorem inRangeItems_of_plain : ∀ {js : List Json}, PlainItems js → inRangeItems js = true
  | [], _ => rfl
  | _ :: _, hplain => by
    rw [inRangeItems, inRange_of_plain hplain.1, inRangeItems_of_plain hplain.2]
    rfl

theorem inRangeMembers_of_plain :
    ∀ {ms : List (String × Json)}, PlainMembers ms → inRangeMembers ms = true
  | [], _ => rfl
  | _ :: _, hplain => by
    rw [inRangeMembers, inRange_of_plain hplain.1, inRangeMembers_of_plain hplain.2]
    rfl

end

end Json

end TableFlow

import EventGateway.Proofs.Json.Members
import EventGateway.Proofs.Json.Ordered

/-!
# Values read back

What is written without binary numbers is read back as it was, if its objects are in order and it is not
nested too deep. And an object that is written is an object of the grammar, of the members that it was
written with and of no others. Main statements: `parse_render`, `parse_render_object` and
`hasMembers_written`.
-/

namespace EventGateway.Json

variable {depth : Nat} {v : Value} {members : List (String × Value)}

/-! ### Values -/

/-- A value of texts and whole numbers, with the members of its objects in order, that is nested to the
depth at most. -/
inductive Value.Plain : Nat → Value → Prop
  | null {depth : Nat} : Plain depth .null
  | bool {depth : Nat} (b : Bool) : Plain depth (.bool b)
  | natural {depth : Nat} (n : UInt64) : Plain depth (.number (.natural n))
  | negative {depth : Nat} {n : UInt64} :
    n.toNat ≠ 0 → n.toNat ≤ Nat.pow 2 63 → Plain depth (.number (.negative n))
  | string {depth : Nat} (s : String) : Plain depth (.string s)
  | array {depth : Nat} {items : List Value} :
    (∀ v ∈ items, Plain depth v) → Plain (depth + 1) (.array items)
  | object {depth : Nat} {members : List (String × Value)} :
    SortedMembers members → (∀ m ∈ members, Plain depth m.2) → Plain (depth + 1) (.object members)

lemma plain_ofStrings (depth : Nat) (ss : List String) : (Value.ofStrings ss).Plain (depth + 1) := by
  refine .array fun v hv => ?_
  obtain ⟨s, -, rfl⟩ := List.mem_map.1 hv
  exact .string s

lemma plain_ofString? (depth : Nat) (s : Option String) : (Value.ofString? s).Plain depth := by
  cases s with
  | none => exact .null
  | some s => exact .string s

lemma Value.Plain.ordered (h : v.Plain depth) : v.Ordered := by
  induction h with
  | null => exact .null
  | bool b => exact .bool b
  | natural | negative => exact .number _
  | string s => exact .string s
  | array _ ih => exact .array ih
  | object hsorted _ ih => exact .object hsorted ih

lemma Value.Plain.first (h : v.Plain depth) : ∃ c cs, v.chars = c :: cs ∧ IsFirst c := by
  cases h with
  | null => exact ⟨_, _, rfl, .inl (by decide)⟩
  | bool b => cases b <;> exact ⟨_, _, rfl, .inl (by decide)⟩
  | natural n =>
    obtain ⟨d, ds, hdecimal⟩ := exists_decimal_eq_cons n.toNat
    exact ⟨d, ds, hdecimal, .inr (isDigit_of_mem_decimal (hdecimal ▸ List.mem_cons_self ..))⟩
  | negative => exact ⟨_, _, rfl, .inl (by decide)⟩
  | string s => exact ⟨_, _, rfl, .inl (by decide)⟩
  | @array _ items _ => cases items <;> exact ⟨_, _, rfl, .inl (by decide)⟩
  | @object _ members _ _ => cases members <;> exact ⟨_, _, rfl, .inl (by decide)⟩

/-- A member of a later key is put behind the others. -/
lemma insertMember_last {before : List (String × Value)} {key : String}
    (h : ∀ m ∈ before, m.1 < key) (v : Value) : insertMember key v before = before ++ [(key, v)] := by
  induction before with
  | nil => rfl
  | cons m before ih =>
    obtain ⟨hm, hbefore⟩ := List.forall_mem_cons.1 h
    have hnot : ¬ key < m.1 := String.lt_asymm hm
    have hne : key ≠ m.1 := fun heq => String.lt_irrefl _ (heq ▸ hm)
    rw [insertMember, if_neg hnot, if_neg hne, ih hbefore]
    rfl

/-- Members in order make the object of them. -/
lemma SortedMembers.ofMembers_eq (h : SortedMembers members) :
    Value.ofMembers members = .object members := by
  have hfoldl (before : List (String × Value)) (h : SortedMembers (before ++ members)) :
      members.foldl (fun sorted m => insertMember m.1 m.2 sorted) before = before ++ members := by
    induction members generalizing before with
    | nil => rw [List.foldl_nil, List.append_nil]
    | cons m members ih =>
      have hlast : ∀ n ∈ before, n.1 < m.1 := fun n hn =>
        (List.pairwise_append.1 h).2.2 n hn m (List.mem_cons_self ..)
      rw [List.append_cons] at h ⊢
      rw [List.foldl_cons, insertMember_last hlast]
      exact ih (List.pairwise_append.1 h).2.1 _ h
  exact congrArg Value.object (hfoldl [] h)

/-- A value is read back from what it is written as. -/
theorem Value.Plain.readsBack (h : v.Plain depth) : ReadsBack depth v := by
  induction h with
  | null => exact fun rest _ => by rw [readValue_eq]; rfl
  | bool b => cases b <;> exact fun rest _ => by rw [readValue_eq]; rfl
  | natural n => exact readsBack_natural _ n
  | negative hne hle => exact readsBack_negative _ hne hle
  | string s => exact readsBack_string _ s
  | @array depth items hitems ih =>
    intro rest _
    have hreads : ∀ v ∈ items, ReadsItem (readValue depth) (id v) v := fun v hv =>
      ⟨(hitems v hv).first, ih v hv⟩
    obtain ⟨cs, hshape, hread⟩ := exists_readItems hreads rest
    rw [List.map_id] at hshape
    rw [hshape, readValue_eq, skipBlanks_cons rfl]
    change (readItems (readValue depth) _ _ _).map _ = _
    rw [hread]
    rfl
  | @object depth members hsorted _ ih =>
    intro rest _
    rw [readValue_object ih rest, hsorted.ofMembers_eq]

lemma parse_of_readValue {v w : Value} (h : readValue (nestingLimit - 1) (v.chars ++ []) = .ok (w, [])) :
    parse v.render = .ok w := by
  refine readText_eq_ok.2 ⟨[], ?_, rfl⟩
  rw [Value.render, String.toList_ofList, ← h, List.append_nil]

/-- An object whose members are in any order is read back as the object of them. -/
theorem parse_render_object (h : ∀ m ∈ members, m.2.Plain (nestingLimit - 2)) :
    parse (Value.object members).render = .ok (.ofMembers members) :=
  parse_of_readValue (readValue_object (fun m hm => (h m hm).readsBack) [])

/-- What is written is a value of the grammar. -/
lemma Value.Plain.derives (h : v.Plain depth) : Derives .value v.chars := by
  obtain ⟨blanks, value, hcs, hblanks, hvalue, -⟩ :=
    takes_readValue depth _ _ _ (h.readsBack [] (ends_of_isBlanks nofun))
  obtain ⟨c, cs, hchars, hc⟩ := h.first
  rw [List.append_nil, List.append_nil, hchars] at hcs
  cases blanks with
  | nil =>
    rw [hchars, hcs]
    exact hvalue
  | cons b blanks =>
    obtain ⟨rfl, -⟩ := List.cons.inj hcs
    have hblank := (isBlank_iff c).2 (hblanks c (List.mem_cons_self ..))
    rw [hc.isBlank] at hblank
    cases hblank

/-! ### Objects as they are written -/

/-- Reads the members of an object in their order, also several of one key, with their values as they are
written. The values may be nested to any depth. -/
def readVerbatimMembers : Reader (List (String × List Char)) :=
  readObjectBy [] fun members key cs => do
    let cs ← readColon cs
    let (value, rest) ← readVerbatim cs
    .ok (members ++ [(key, value)], rest)

/-- The text is an object of the members in their order, each with its value as it is written, and it is
read as an object of no others. -/
structure HasMembers (text : List Char) (members : List (String × List Char)) : Prop where
  object : IsObject members text
  read : readText readVerbatimMembers (String.ofList text) = .ok members

lemma spells_stringChars (s : String) : Spells (s.toList.flatMap escapedChar ++ ['"']) s.toList := by
  obtain ⟨used, hcs, hused⟩ := of_readString (readString_flatMap s [])
  rw [List.append_nil] at hcs
  exact hcs ▸ hused

section

variable {members : List (String × List Char)}

lemma isMember_written (key : String) {value : List Char} (h : Derives .value value) :
    IsMember key value (stringChars key ++ ':' :: value) := by
  have hmember := IsMember.mk (show IsBlanks [] from nofun) (spells_stringChars key)
    (show IsBlanks [] from nofun) (show IsBlanks [] from nofun) h
  rw [stringChars_append]
  simpa using hmember

lemma isMembers_written (key : String) {value : List Char} (h : Derives .value value)
    (hmembers : ∀ m ∈ members, Derives .value m.2) : IsMembers ((key, value) :: members)
      (stringChars key ++ ':' :: value ++ writtenRest members) := by
  induction members generalizing key value with
  | nil =>
    have hlast := IsMembers.last (isMember_written key h) (show IsBlanks [] from nofun)
    exact hlast
  | cons m members ih =>
    obtain ⟨hm, hmembers⟩ := List.forall_mem_cons.1 hmembers
    have hmore := IsMembers.more (isMember_written key h) (show IsBlanks [] from nofun)
      (ih m.1 hm hmembers)
    exact hmore

lemma isObject_written (h : ∀ m ∈ members, Derives .value m.2) :
    IsObject members (written members) := by
  cases members with
  | nil =>
    have hempty := IsObject.empty (show IsBlanks [] from nofun)
    exact hempty
  | cons m members =>
    obtain ⟨hm, hmembers⟩ := List.forall_mem_cons.1 h
    exact .members (isMembers_written m.1 hm hmembers)

lemma reads_verbatim (h : ∀ m ∈ members, Derives .value m.2) (before : List (String × List Char)) :
    Reads (fun members key cs => do
      let cs ← readColon cs
      let (value, rest) ← readVerbatim cs
      .ok (members ++ [(key, value)], rest)) before members (before ++ members) := by
  induction members generalizing before with
  | nil =>
    rw [List.append_nil]
    exact .nil before
  | cons m members ih =>
    obtain ⟨hm, hmembers⟩ := List.forall_mem_cons.1 h
    have hothers := ih hmembers (before ++ [m])
    rw [List.append_assoc, List.singleton_append] at hothers
    refine .cons (fun rest hends => ?_) hothers
    have hcolon : readColon (':' :: (m.2 ++ rest)) = .ok (m.2 ++ rest) := rfl
    simp only [hcolon, hm.isValueText rest hends, bind, Except.bind]

/-- An object that is written has the members that it is written with. -/
theorem hasMembers_written (h : ∀ m ∈ members, Derives .value m.2) :
    HasMembers (written members) members where
  object := isObject_written h
  read := by
    refine readText_eq_ok.2 ⟨[], ?_, rfl⟩
    have hread := (reads_verbatim h []).readObjectBy_written []
    rw [List.append_nil] at hread
    rw [String.toList_ofList]
    exact hread

end

lemma hasMembers_object (h : ∀ m ∈ members, m.2.Plain depth) :
    HasMembers (Value.object members).chars (texts members) := by
  rw [chars_object]
  refine hasMembers_written fun m hm => ?_
  obtain ⟨n, hn, rfl⟩ := List.mem_map.1 hm
  exact (h n hn).derives

end EventGateway.Json

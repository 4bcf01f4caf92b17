import EventGateway.Json.Record
import EventGateway.Proofs.Json.Skipping
import EventGateway.Proofs.Json.Texts

/-!
# Records read back

An object that is written without blanks is read back member by member, and the members of a record
bring their values to its fields.
-/

namespace EventGateway.Json

/-! ### Texts and lists of texts -/

lemma readStringField_stringChars (s : String) (rest : List Char) :
    readStringField (stringChars s ++ rest) = .ok (s, rest) := by
  rw [stringChars_append, readStringField, readTextAs, placed, skipBlanks_cons rfl]
  dsimp only
  rw [if_pos rfl, readString_flatMap]
  rfl

lemma readOptional_stringChars (s : String) (rest : List Char) :
    readOptional readStringField (stringChars s ++ rest) = .ok (some s, rest) := by
  have h := readStringField_stringChars s rest
  rw [stringChars_append] at h ⊢
  rw [readOptional, skipBlanks_cons rfl]
  change (readStringField _).map _ = _
  rw [h]
  rfl

lemma readItems_first {α : Type} {item : Reader α} {fuel : Nat} {c : Char} {cs rest : List Char} {x : α}
    (hblank : isBlank c = false) (hc : c ≠ ']') (hitem : item (c :: cs) = .ok (x, rest)) :
    readItems item (fuel + 1) true (c :: cs) =
      (readItems item fuel false rest).map fun p => (x :: p.1, p.2) := by
  rw [readItems, skipBlanks_cons hblank]
  dsimp only
  rw [if_neg hc, if_pos rfl, hitem]
  cases hitems : readItems item fuel false rest <;> simp [bind, Except.bind, Except.map, hitems]

lemma readItems_next {α : Type} {item : Reader α} {fuel : Nat} {c : Char} {cs rest : List Char} {x : α}
    (hblank : isBlank c = false) (hc : c ≠ ']') (hitem : item (c :: cs) = .ok (x, rest)) :
    readItems item (fuel + 1) false (',' :: c :: cs) =
      (readItems item fuel false rest).map fun p => (x :: p.1, p.2) := by
  rw [readItems, skipBlanks_cons rfl]
  dsimp only
  rw [if_neg (by decide), if_neg (by decide), if_pos rfl, skipBlanks_cons hblank]
  dsimp only
  rw [if_neg hc, hitem]
  cases hitems : readItems item fuel false rest <;> simp [bind, Except.bind, Except.map, hitems]

/-- The item is read back from what it is written as. -/
structure ReadsItem {α : Type} (item : Reader α) (v : Value) (x : α) : Prop where
  first : ∃ c cs, v.chars = c :: cs ∧ IsFirst c
  reads : ∀ rest, Ends rest → item (v.chars ++ rest) = .ok (x, rest)

lemma ends_itemsChars (vs : List Value) (rest : List Char) : Ends (itemsChars vs ++ rest) := by
  cases vs with
  | nil => exact ends_separator (.inr (.inl rfl)) rest
  | cons v vs => exact ends_separator (.inl rfl) _

lemma length_le_itemsChars (vs : List Value) : vs.length ≤ (itemsChars vs).length := by
  induction vs with
  | nil => exact Nat.zero_le _
  | cons v vs ih =>
    simp only [itemsChars, List.cons_append, List.length_cons, List.length_append]
    omega

section

variable {α : Type} {item : Reader α} {g : α → Value}

/-- The items after the first one. -/
lemma readItems_itemsChars {xs : List α} (h : ∀ x ∈ xs, ReadsItem item (g x) x) (rest : List Char)
    {fuel : Nat} (hfuel : xs.length < fuel) :
    readItems item fuel false (itemsChars (xs.map g) ++ rest) = .ok (xs, rest) := by
  induction xs generalizing fuel with
  | nil =>
    cases fuel with
    | zero => omega
    | succ fuel => rfl
  | cons x xs ih =>
    cases fuel with
    | zero => omega
    | succ fuel =>
      obtain ⟨hx, hxs⟩ := List.forall_mem_cons.1 h
      obtain ⟨c, cs, hchars, hc⟩ := hx.first
      have hitem := hx.reads _ (ends_itemsChars (xs.map g) rest)
      have hshape : itemsChars ((x :: xs).map g) ++ rest =
          ',' :: ((g x).chars ++ (itemsChars (xs.map g) ++ rest)) := by
        simp [itemsChars]
      rw [hchars, List.cons_append] at hitem
      rw [hshape, hchars, List.cons_append, readItems_next hc.isBlank (hc.ne_closing .array) hitem,
        ih hxs (Nat.lt_of_succ_lt_succ hfuel)]
      rfl

/-- The items of an array are read back behind its bracket. -/
lemma exists_readItems {xs : List α} (h : ∀ x ∈ xs, ReadsItem item (g x) x) (rest : List Char) :
    ∃ cs, (Value.array (xs.map g)).chars ++ rest = '[' :: cs ∧
      readItems item (cs.length + 1) true cs = .ok (xs, rest) := by
  cases xs with
  | nil => exact ⟨_, rfl, rfl⟩
  | cons x xs =>
    obtain ⟨hx, hxs⟩ := List.forall_mem_cons.1 h
    obtain ⟨c, cs, hchars, hc⟩ := hx.first
    have hitem := hx.reads _ (ends_itemsChars (xs.map g) rest)
    refine ⟨(g x).chars ++ (itemsChars (xs.map g) ++ rest), by simp [Value.chars], ?_⟩
    have hfuel : xs.length < ((g x).chars ++ (itemsChars (xs.map g) ++ rest)).length := by
      have := length_le_itemsChars (xs.map g)
      simp only [hchars, List.cons_append, List.length_cons, List.length_append, List.length_map]
        at this ⊢
      omega
    rw [hchars, List.cons_append] at hitem hfuel ⊢
    rw [readItems_first hc.isBlank (hc.ne_closing .array) hitem, readItems_itemsChars hxs rest hfuel]
    rfl

end

lemma readsItem_string (s : String) : ReadsItem readStringField (.string s) s where
  first := ⟨_, _, rfl, .inl (by decide)⟩
  reads rest _ := readStringField_stringChars s rest

lemma readStringsField_ofStrings (ss : List String) (rest : List Char) :
    readStringsField ((Value.ofStrings ss).chars ++ rest) = .ok (ss, rest) := by
  obtain ⟨cs, hshape, hread⟩ := exists_readItems (fun s (_ : s ∈ ss) => readsItem_string s) rest
  rw [Value.ofStrings, hshape, readStringsField, placed, skipBlanks_cons rfl]
  dsimp only
  rw [if_pos rfl, hread]
  rfl

/-! ### Written objects -/

/-- Members after the first one and the end of the object. -/
def writtenRest : List (String × List Char) → List Char
  | [] => ['\x7d']
  | (key, text) :: members => ',' :: stringChars key ++ ':' :: text ++ writtenRest members

/-- An object of members with their values as they are written. -/
def written : List (String × List Char) → List Char
  | [] => ['\x7b', '\x7d']
  | (key, text) :: members => '\x7b' :: stringChars key ++ ':' :: text ++ writtenRest members

/-- The members with their values as they are written. -/
def texts (members : List (String × Value)) : List (String × List Char) :=
  members.map fun m => (m.1, m.2.chars)

lemma membersChars_eq (members : List (String × Value)) :
    membersChars members = writtenRest (texts members) := by
  induction members with
  | nil => rfl
  | cons m members ih => simp [membersChars, writtenRest, texts, ih]

lemma chars_object (members : List (String × Value)) :
    (Value.object members).chars = written (texts members) := by
  cases members with
  | nil => rfl
  | cons m members => simp [Value.chars, written, texts, membersChars_eq]

lemma ends_writtenRest (members : List (String × List Char)) (rest : List Char) :
    Ends (writtenRest members ++ rest) := by
  cases members with
  | nil => exact ends_separator (.inr (.inr rfl)) rest
  | cons m members => exact ends_separator (.inl rfl) _

lemma length_le_writtenRest (members : List (String × List Char)) :
    members.length ≤ (writtenRest members).length := by
  induction members with
  | nil => exact Nat.zero_le _
  | cons m members ih =>
    simp only [writtenRest, List.cons_append, List.length_cons, List.length_append]
    omega

/-! ### Members -/

section

variable {σ α : Type} {member : σ → String → Reader σ} {s t u : σ}

lemma readMembers_first {fuel : Nat} {key : String} {cs rest : List Char}
    (hmember : member s key cs = .ok (t, rest)) :
    readMembers member (fuel + 1) true s (stringChars key ++ cs) =
      readMembers member fuel false t rest := by
  rw [stringChars_append, readMembers, skipBlanks_cons rfl]
  dsimp only
  rw [if_neg (by decide), if_pos rfl, if_pos rfl, readString_flatMap]
  simp only [bind, Except.bind, hmember]

lemma readMembers_next {fuel : Nat} {key : String} {cs rest : List Char}
    (hmember : member s key cs = .ok (t, rest)) :
    readMembers member (fuel + 1) false s (',' :: (stringChars key ++ cs)) =
      readMembers member fuel false t rest := by
  rw [stringChars_append, readMembers, skipBlanks_cons rfl]
  dsimp only
  rw [if_neg (by decide), if_neg (by decide), if_pos rfl, skipBlanks_cons rfl]
  dsimp only
  rw [if_pos rfl, readString_flatMap]
  simp only [bind, Except.bind, hmember]

/-- The members, each with its value as it is written, bring the one state to the other. -/
inductive Reads (member : σ → String → Reader σ) : σ → List (String × List Char) → σ → Prop
  | nil (s : σ) : Reads member s [] s
  | cons {s t u : σ} {key : String} {text : List Char} {members : List (String × List Char)} :
    (∀ rest, Ends rest → member s key (':' :: (text ++ rest)) = .ok (t, rest)) →
    Reads member t members u → Reads member s ((key, text) :: members) u

namespace Reads

lemma append {members others : List (String × List Char)} (h : Reads member s members t)
    (h' : Reads member t others u) : Reads member s (members ++ others) u := by
  induction h with
  | nil => exact h'
  | cons hfirst _ ih => exact .cons hfirst (ih h')

lemma readMembers_writtenRest {members : List (String × List Char)} (h : Reads member s members t)
    (rest : List Char) {fuel : Nat} (hfuel : members.length < fuel) :
    readMembers member fuel false s (writtenRest members ++ rest) = .ok (t, '\x7d' :: rest) := by
  induction h generalizing fuel with
  | nil s =>
    cases fuel with
    | zero => omega
    | succ fuel => rfl
  | @cons s t u key text members hfirst _ ih =>
    cases fuel with
    | zero => omega
    | succ fuel =>
      have hmember := hfirst _ (ends_writtenRest members rest)
      have hshape : writtenRest ((key, text) :: members) ++ rest =
          ',' :: (stringChars key ++ ':' :: (text ++ (writtenRest members ++ rest))) := by
        simp [writtenRest]
      rw [hshape, readMembers_next hmember]
      exact ih (Nat.lt_of_succ_lt_succ hfuel)

/-- The members of a written object are read up to its end. -/
lemma exists_readMembers {members : List (String × List Char)} (h : Reads member s members t)
    (rest : List Char) : ∃ cs, written members ++ rest = '\x7b' :: cs ∧
      readMembers member (cs.length + 1) true s cs = .ok (t, '\x7d' :: rest) := by
  cases h with
  | nil => exact ⟨_, rfl, rfl⟩
  | @cons _ u _ key text members hfirst hmembers =>
    refine ⟨stringChars key ++ ':' :: (text ++ (writtenRest members ++ rest)), by simp [written], ?_⟩
    rw [readMembers_first (hfirst _ (ends_writtenRest members rest))]
    apply hmembers.readMembers_writtenRest
    have := length_le_writtenRest members
    simp only [stringChars, List.cons_append, List.length_cons, List.length_append]
    omega

/-- A record is read back from the object of its members. -/
theorem read_written {shape : Shape σ α} {members : List (String × List Char)} {x : α}
    (h : Reads shape.readMember shape.start members t) (hfinish : shape.finish t = .ok x)
    (rest : List Char) : shape.read (written members ++ rest) = .ok (x, rest) := by
  obtain ⟨cs, hshape, hmembers⟩ := h.exists_readMembers rest
  rw [hshape, Shape.read, skipBlanks_cons rfl]
  dsimp only
  rw [if_neg (by decide), if_pos rfl, Shape.readObject, hmembers]
  simp [bind, Except.bind, hfinish, Except.mapError]

/-- What the members of an object come to is read back from it. -/
theorem readObjectBy_written {members : List (String × List Char)} (h : Reads member s members t)
    (rest : List Char) : readObjectBy s member (written members ++ rest) = .ok (t, rest) := by
  obtain ⟨cs, hshape, hmembers⟩ := h.exists_readMembers rest
  rw [hshape, readObjectBy, skipBlanks_cons rfl]
  simp only [hmembers, bind, Except.bind, List.tail_cons]

/-- A known field that has not been read yet takes what its reader makes of the value. -/
lemma single {shape : Shape σ α} {key : String} {text : List Char} (field : Field σ)
    (hfield : shape.fields.find? (·.name == key) = some field) (hset : field.isSet s = false)
    (hread : ∀ rest, Ends rest → field.read s (text ++ rest) = .ok (t, rest)) :
    Reads shape.readMember s [(key, text)] t := by
  refine .cons (fun rest hends => ?_) (.nil t)
  rw [Shape.readMember, hfield]
  simp only [hset]
  exact hread rest hends

end Reads

end

end EventGateway.Json

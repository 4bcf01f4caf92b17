import EventGateway.Proofs.Json.Records
import EventGateway.Proofs.Json.Values

/-!
# Members read back

Texts and whole numbers are read back as they were written, and so are the members of an object that
holds nothing else, in their order.
-/

namespace EventGateway.Json

/-- The value is read back from what it is written as. -/
def ReadsBack (depth : Nat) (v : Value) : Prop :=
  ∀ rest, Ends rest → readValue depth (v.chars ++ rest) = .ok (v, rest)

lemma readsBack_string (depth : Nat) (s : String) : ReadsBack depth (.string s) := by
  intro rest _
  rw [Value.chars, stringChars_append, readValue_eq, skipBlanks_cons rfl]
  change (readString _).map _ = _
  rw [readString_flatMap]
  rfl

lemma readsBack_natural (depth : Nat) (n : UInt64) : ReadsBack depth (.number (.natural n)) := by
  intro rest hends
  obtain ⟨d, ds, hdecimal⟩ := exists_decimal_eq_cons n.toNat
  have hd : d.isDigit = true := isDigit_of_mem_decimal (hdecimal ▸ List.mem_cons_self ..)
  have hne {c : Char} (hc : c.isDigit = false) : d ≠ c := fun h => by simp [← h, hd] at hc
  have hread := readNumber_decimal n.toNat_lt true (.inl rfl) hends
  rw [hdecimal, List.cons_append] at hread
  rw [Value.chars, Number.chars, hdecimal, List.cons_append, readValue_eq,
    skipBlanks_cons (IsFirst.isBlank (.inr hd))]
  dsimp only
  rw [readAfter.eq_def, if_neg (hne rfl), if_neg (hne rfl), if_neg (hne rfl), if_neg (hne rfl), if_pos hd,
    hread, if_pos rfl, UInt64.ofNat_toNat]
  rfl

lemma readsBack_negative (depth : Nat) {n : UInt64} (hne : n.toNat ≠ 0) (hle : n.toNat ≤ Nat.pow 2 63) :
    ReadsBack depth (.number (.negative n)) := by
  intro rest hends
  have hread := readNumber_decimal n.toNat_lt false (.inr ⟨hne, hle⟩) hends
  rw [Value.chars, Number.chars, List.cons_append, readValue_eq, skipBlanks_cons rfl]
  change (readNumber false _).map _ = _
  rw [hread, if_neg (by decide), UInt64.ofNat_toNat]
  rfl

section

variable {depth : Nat} {members : List (String × Value)}

/-- The members are put with the ones before, one after the other. -/
lemma reads_texts {σ : Type} (put : σ → String → Value → σ) (h : ∀ m ∈ members, ReadsBack depth m.2)
    (before : σ) : Reads (readMemberInto (fun s key _ v _ => put s key v) (readValue depth)) before (texts members)
      (members.foldl (fun s m => put s m.1 m.2) before) := by
  induction members generalizing before with
  | nil => exact .nil before
  | cons m members ih =>
    obtain ⟨hm, hmembers⟩ := List.forall_mem_cons.1 h
    refine .cons (fun rest hends => ?_) (ih hmembers (put before m.1 m.2))
    have hcolon : readColon (':' :: (m.2.chars ++ rest)) = .ok (m.2.chars ++ rest) := rfl
    simp only [readMemberInto, hcolon, hm rest hends, bind, Except.bind]

/-- The members of an object are read back in their order. -/
theorem readMemberList_object (h : ∀ m ∈ members, ReadsBack depth m.2) (rest : List Char) :
    readMemberList depth ((Value.object members).chars ++ rest) = .ok (members, rest) := by
  have happend (before : List (String × Value)) :
      members.foldl (fun s m => s ++ [(m.1, m.2)]) before = before ++ members := by
    induction members generalizing before with
    | nil => rw [List.foldl_nil, List.append_nil]
    | cons m members ih =>
      rw [List.foldl_cons, ih (List.forall_mem_cons.1 h).2, List.append_assoc, List.singleton_append]
  have hreads := reads_texts (fun s key v => s ++ [(key, v)]) h []
  rw [happend, List.nil_append] at hreads
  rw [chars_object]
  exact hreads.readObjectBy_written rest

/-- As a value an object is read back with its members sorted, the last of each key. -/
theorem readValue_object (h : ∀ m ∈ members, ReadsBack depth m.2) (rest : List Char) :
    readValue (depth + 1) ((Value.object members).chars ++ rest) =
      .ok (Value.ofMembers members, rest) := by
  obtain ⟨cs, hshape, hread⟩ :=
    (reads_texts (fun s key v => insertMember key v s) h []).exists_readMembers rest
  rw [chars_object, hshape, readValue_eq, skipBlanks_cons rfl]
  change (readMembers (readMemberInto _ (readValue depth)) _ _ _ _ >>= _) = _
  rw [hread]
  rfl

end

end EventGateway.Json

import EventGateway.Proofs.Json.Fields

/-!
# Objects in order

The objects of a value that is read have their members sorted by key, each key once, at every depth.
Main statement: `ordered_of_readValueBy`. What every field of a record keeps holds of the record that is
read: `exists_of_read`.
-/

namespace EventGateway.Json

variable {members : List (String × Value)} {key : String} {v : Value}

/-! ### Sorted members -/

/-- The members are sorted by key, and no key has two of them. -/
def SortedMembers (members : List (String × Value)) : Prop :=
  members.Pairwise fun m n => m.1 < n.1

instance : Decidable (SortedMembers members) :=
  inferInstanceAs (Decidable (List.Pairwise _ _))

lemma lookup_member (k key : String) (v : Value) (members : List (String × Value)) :
    List.lookup k ((key, v) :: members) = if k = key then some v else members.lookup k := by
  rw [List.lookup_cons]
  by_cases h : k = key
  · rw [beq_iff_eq.2 h, if_pos h]
  · rw [beq_eq_false_iff_ne.2 h, if_neg h]

lemma lookup_insertMember (k key : String) (v : Value) (members : List (String × Value)) :
    (insertMember key v members).lookup k = if k = key then some v else members.lookup k := by
  induction members with
  | nil => rw [insertMember, lookup_member]
  | cons m members ih =>
    obtain ⟨other, w⟩ := m
    rw [insertMember]
    by_cases hlt : key < other
    · rw [if_pos hlt, lookup_member]
    · rw [if_neg hlt, lookup_member]
      by_cases heq : key = other
      · rw [if_pos heq, lookup_member, heq]
        by_cases hk : k = other
        · rw [if_pos hk, if_pos hk]
        · rw [if_neg hk, if_neg hk, if_neg hk]
      · rw [if_neg heq, lookup_member, ih]
        by_cases hk : k = other
        · rw [if_pos hk, if_pos hk, if_neg (hk ▸ Ne.symm heq)]
        · rw [if_neg hk, if_neg hk]

lemma mem_of_mem_insertMember {m : String × Value} (h : m ∈ insertMember key v members) :
    m = (key, v) ∨ m ∈ members := by
  induction members with
  | nil => exact .inl (List.mem_singleton.1 h)
  | cons n members ih =>
    simp only [insertMember] at h
    split_ifs at h with hlt heq
    · exact List.mem_cons.1 h
    · rcases List.mem_cons.1 h with rfl | h
      · exact .inl rfl
      · exact .inr (List.mem_cons_of_mem _ h)
    · rcases List.mem_cons.1 h with rfl | h
      · exact .inr (List.mem_cons_self ..)
      · exact (ih h).imp_right (List.mem_cons_of_mem _)

namespace SortedMembers

lemma insert (h : SortedMembers members) : SortedMembers (insertMember key v members) := by
  induction members with
  | nil => exact List.pairwise_singleton ..
  | cons m members ih =>
    obtain ⟨hfirst, hrest⟩ := List.pairwise_cons.1 h
    simp only [insertMember]
    split_ifs with hlt heq
    · refine List.pairwise_cons.2 ⟨fun n hn => ?_, h⟩
      rcases List.mem_cons.1 hn with rfl | hn
      · exact hlt
      · exact String.lt_trans hlt (hfirst n hn)
    · exact List.pairwise_cons.2 ⟨heq ▸ hfirst, hrest⟩
    · refine List.pairwise_cons.2 ⟨fun n hn => ?_, ih hrest⟩
      rcases mem_of_mem_insertMember hn with rfl | hn
      · exact String.not_le.1 fun hle => heq (String.le_antisymm hle (String.not_lt.1 hlt))
      · exact hfirst n hn

lemma of_keys (keys : List String) (hkeys : members.map Prod.fst = keys)
    (h : keys.Pairwise (· < ·)) : SortedMembers members :=
  List.pairwise_map.1 (hkeys ▸ h)

lemma nodup_keys (h : SortedMembers members) : (members.map Prod.fst).Nodup := by
  refine List.pairwise_map.2 (List.Pairwise.imp (fun {m n} hmn => ?_) h)
  exact fun heq => String.lt_irrefl _ (heq ▸ hmn)

end SortedMembers

/-! ### Values in order -/

/-- The objects in the value have their members sorted. -/
inductive Value.Ordered : Value → Prop
  | null : Ordered .null
  | bool (b : Bool) : Ordered (.bool b)
  | number (n : Number) : Ordered (.number n)
  | string (s : String) : Ordered (.string s)
  | array {items : List Value} : (∀ v ∈ items, Ordered v) → Ordered (.array items)
  | object {members : List (String × Value)} :
    SortedMembers members → (∀ m ∈ members, Ordered m.2) → Ordered (.object members)

lemma Value.Ordered.sorted (h : (Value.object members).Ordered) : SortedMembers members := by
  cases h with
  | object hsorted _ => exact hsorted

lemma Value.Ordered.insert (h : (Value.object members).Ordered) (hv : v.Ordered) :
    (Value.object (insertMember key v members)).Ordered := by
  cases h with
  | object hsorted hmembers =>
    refine .object hsorted.insert fun m hm => ?_
    rcases mem_of_mem_insertMember hm with rfl | hm
    · exact hv
    · exact hmembers m hm

/-! ### Values that are read -/

section

variable {α σ : Type}

lemma forall_of_readItems {item : Reader α} {P : α → Prop}
    (hitem : ∀ cs x rest, item cs = .ok (x, rest) → P x) {fuel : Nat} {first : Bool}
    {cs rest : List Char} {xs : List α} (h : readItems item fuel first cs = .ok (xs, rest)) :
    ∀ x ∈ xs, P x := by
  induction fuel generalizing first cs xs with
  | zero => cases h
  | succ fuel ih =>
    -- an item and those behind it
    have hitems {cs : List Char} (h : (item cs >>= fun p => readItems item fuel false p.2 >>=
        fun q => .ok (p.1 :: q.1, q.2)) = .ok (xs, rest)) : ∀ x ∈ xs, P x := by
      obtain ⟨⟨x, behind⟩, hfirst, h⟩ := bind_eq_ok.1 h
      obtain ⟨⟨ys, behind'⟩, hrest, h⟩ := bind_eq_ok.1 h
      cases h
      exact List.forall_mem_cons.2 ⟨hitem _ _ _ hfirst, ih hrest⟩
    simp only [readItems] at h
    split at h
    · cases h
    · split_ifs at h
      · cases h
        exact List.forall_mem_nil _
      · exact hitems h
      · split at h
        · cases h
        · split_ifs at h
          exact hitems h

/-- What every member keeps holds of what is read from all of them. -/
lemma invariant_of_readMembers {member : σ → String → Reader σ} {P : σ → Prop}
    (hmember : ∀ s key cs t rest, member s key cs = .ok (t, rest) → P s → P t) {fuel : Nat}
    {first : Bool} {s t : σ} {cs rest : List Char}
    (h : readMembers member fuel first s cs = .ok (t, rest)) (hs : P s) : P t := by
  induction fuel generalizing first s cs with
  | zero => cases h
  | succ fuel ih =>
    -- a member and those behind it
    have hmembers {cs : List Char} (h : (readString cs >>= fun p =>
        member s p.1 p.2 >>= fun q => readMembers member fuel false q.1 q.2) = .ok (t, rest)) : P t := by
      obtain ⟨⟨key, behind⟩, -, h⟩ := bind_eq_ok.1 h
      obtain ⟨⟨u, others⟩, hfirst, hrest⟩ := bind_eq_ok.1 h
      exact ih hrest (hmember _ _ _ _ _ hfirst hs)
    simp only [readMembers] at h
    split at h
    · cases h
    · split_ifs at h
      · cases h
        exact hs
      · exact hmembers h
      · split at h
        · cases h
        · split_ifs at h
          exact hmembers h

end

/-- The objects of a value that is read are in order, if those are that need not be objects of members. -/
theorem ordered_of_readValueBy {special : Special}
    (hspecial : ∀ cs v rest, special cs = some (.ok (v, rest)) → v.Ordered) {depth : Nat}
    {cs rest : List Char} (h : readValueBy special depth cs = .ok (v, rest)) : v.Ordered := by
  induction depth using Nat.strongRecOn generalizing cs v rest with
  | ind depth ih =>
    rw [readValueBy_eq] at h
    split at h
    · cases h
    · unfold readAfter at h
      split_ifs at h
      · obtain ⟨behind, -, hv⟩ := map_eq_ok.1 h
        cases hv
        exact .null
      · obtain ⟨behind, -, hv⟩ := map_eq_ok.1 h
        cases hv
        exact .bool _
      · obtain ⟨behind, -, hv⟩ := map_eq_ok.1 h
        cases hv
        exact .bool _
      · obtain ⟨⟨x, behind⟩, -, hv⟩ := map_eq_ok.1 h
        cases hv
        exact .number _
      · obtain ⟨⟨x, behind⟩, -, hv⟩ := map_eq_ok.1 h
        cases hv
        exact .number _
      · obtain ⟨⟨s, behind⟩, -, hv⟩ := map_eq_ok.1 h
        cases hv
        exact .string _
      · cases depth with
        | zero => cases h
        | succ inner =>
          obtain ⟨⟨xs, behind⟩, hitems, hv⟩ := map_eq_ok.1 h
          cases hv
          exact .array (forall_of_readItems (fun _ _ _ => ih inner (Nat.lt_succ_self _)) hitems)
      · cases depth with
        | zero => cases h
        | succ inner =>
          dsimp only at h
          split at h
          · next result hresult =>
            subst h
            exact hspecial _ _ _ hresult
          · obtain ⟨⟨members, behind⟩, hmembers, hv⟩ := bind_eq_ok.1 h
            cases hv
            refine invariant_of_readMembers (P := fun members => (Value.object members).Ordered)
              (fun s key cs t rest hmember hs => ?_) hmembers (.object List.Pairwise.nil nofun)
            obtain ⟨colon, -, hvalue⟩ := bind_eq_ok.1 hmember
            obtain ⟨⟨x, others⟩, hread, hend⟩ := bind_eq_ok.1 hvalue
            cases hend
            exact hs.insert (ih inner (Nat.lt_succ_self _) hread)

/-! ### Records that are read -/

section

variable {α σ : Type} {P : σ → Prop}

lemma invariant_of_readPositions {fields : List (Field σ)}
    (hfield : ∀ field ∈ fields, ∀ s cs t rest, field.read s cs = .ok (t, rest) → P s → P t)
    {count n : Nat} {s t : σ} {cs rest : List Char}
    (h : Shape.readPositions fields count s cs = .ok ((t, n), rest)) (hs : P s) : P t := by
  induction fields generalizing count s cs with
  | nil =>
    cases h
    exact hs
  | cons field fields ih =>
    have hothers := fun field hmem => hfield field (List.mem_cons_of_mem _ hmem)
    -- a field and those behind it
    have hfields {cs : List Char} (h : (field.read s cs >>= fun p =>
        Shape.readPositions fields (count + 1) p.1 p.2) = .ok ((t, n), rest)) : P t := by
      obtain ⟨⟨u, behind⟩, hfirst, hrest⟩ := bind_eq_ok.1 h
      exact ih hothers hrest (hfield field (List.mem_cons_self ..) _ _ _ _ hfirst hs)
    simp only [Shape.readPositions] at h
    split at h
    · cases h
    · split_ifs at h
      · cases h
        exact hs
      · exact hfields h
      · split at h
        · cases h
        · split_ifs at h
          exact hfields h

lemma invariant_of_readMember {shape : Shape σ α}
    (hfield : ∀ field ∈ shape.fields, ∀ s cs t rest, field.read s cs = .ok (t, rest) → P s → P t)
    {s t : σ} {key : String} {cs rest : List Char}
    (h : shape.readMember s key cs = .ok (t, rest)) (hs : P s) : P t := by
  unfold Shape.readMember at h
  split at h
  · next field hfind =>
    split_ifs at h
    obtain ⟨behind, -, hread⟩ := bind_eq_ok.1 h
    exact hfield field (List.mem_of_find?_eq_some hfind) _ _ _ _ hread hs
  · obtain ⟨behind, -, h⟩ := bind_eq_ok.1 h
    obtain ⟨others, -, h⟩ := bind_eq_ok.1 h
    cases h
    exact hs

/-- A record that is read is made of fields of which holds what every field keeps. -/
theorem exists_of_read {shape : Shape σ α} (hstart : P shape.start)
    (hfield : ∀ field ∈ shape.fields, ∀ s cs t rest, field.read s cs = .ok (t, rest) → P s → P t)
    {cs rest : List Char} {x : α} (h : shape.read cs = .ok (x, rest)) :
    ∃ s, P s ∧ shape.finish s = .ok x := by
  unfold Shape.read at h
  split at h
  · cases h
  · split_ifs at h
    · obtain ⟨⟨y, behind⟩, hbody, h⟩ := bind_eq_ok.1 h
      obtain ⟨others, -, h⟩ := bind_eq_ok.1 h
      cases h
      obtain ⟨⟨⟨s, n⟩, behind⟩, hpositions, hfinish⟩ := bind_eq_ok.1 (mapError_eq_ok.1 hbody)
      refine ⟨s, invariant_of_readPositions hfield hpositions hstart, ?_⟩
      dsimp only at hfinish
      split at hfinish
      · next y hy =>
        cases hfinish
        exact hy
      · cases hfinish
    · obtain ⟨⟨y, behind⟩, hbody, h⟩ := bind_eq_ok.1 h
      cases h
      obtain ⟨⟨s, behind⟩, hmembers, hfinish⟩ := bind_eq_ok.1 (mapError_eq_ok.1 hbody)
      refine ⟨s, invariant_of_readMembers
        (fun _ _ _ _ _ => invariant_of_readMember hfield) hmembers hstart, ?_⟩
      dsimp only at hfinish
      split at hfinish
      · next y hy =>
        cases hfinish
        exact hy
      · cases hfinish
    · exact absurd (mapError_eq_ok.1 h) (readWrong_ne_ok _ _ _)

end

end EventGateway.Json

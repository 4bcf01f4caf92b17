import EventGateway.Proofs.Json.Values
import Mathlib.Data.List.Forall2

/-!
# Fields that are read

What the readers of single fields take: texts, lists of texts, names, and these or null; and what the
readers of members in their order take. A whole text that is read is JSON.
-/

namespace EventGateway.Json

section

variable {α : Type} {reader : Reader α} {R : List Char → α → Prop}

lemma Takes.placed (h : Takes reader R) : Takes (placed reader) R :=
  fun cs x rest hread => h cs x rest (mapError_eq_ok.1 hread)

/-- Blanks that are passed over first are blanks before the value. -/
lemma Takes.behind_blanks (h : Takes reader R) {cs rest : List Char} {x : α}
    (hread : reader (skipBlanks cs) = .ok (x, rest)) : ∃ blanks value, cs = blanks ++ (value ++ rest) ∧
      IsBlanks blanks ∧ Derives .value value ∧ R value x := by
  obtain ⟨before, hcs, hbefore⟩ := exists_blanks cs
  obtain ⟨blanks, value, hskip, hblanks, hvalue, hx⟩ := h _ _ _ hread
  refine ⟨before ++ blanks, value, ?_, hbefore.append hblanks, hvalue, hx⟩
  rw [List.append_assoc, ← hskip]
  exact hcs

/-- A value that is not of the expected type is not read. -/
lemma readWrong_ne_ok (expected : String) (cs : List Char) (p : α × List Char) :
    readWrong expected cs ≠ .ok p := by
  intro h
  unfold readWrong at h
  split at h
  · cases h
  · next c rest =>
    split_ifs at h
    · obtain ⟨behind, -, hwrong⟩ := bind_eq_ok.1 h
      cases hwrong
    · obtain ⟨behind, -, hwrong⟩ := bind_eq_ok.1 h
      cases hwrong
    · obtain ⟨behind, -, hwrong⟩ := bind_eq_ok.1 h
      cases hwrong
    · dsimp only at h
      split at h <;> cases h
    · dsimp only at h
      split at h <;> cases h
    · obtain ⟨behind, -, hwrong⟩ := bind_eq_ok.1 h
      cases hwrong

theorem takes_readTextAs (expected : String) :
    Takes (readTextAs expected) fun value s => IsText s value := by
  apply Takes.placed
  intro cs s rest h
  dsimp only at h
  split at h
  · cases h
  · next c tail hskip =>
    obtain ⟨blanks, rfl, hblanks⟩ := exists_blanks_of_cons hskip
    split at h
    · next hquote =>
      obtain ⟨quoted, rfl, hquoted⟩ := of_readString h
      rw [hquote]
      exact ⟨blanks, '"' :: quoted, by simp, hblanks, .string hquoted.isQuoted, quoted, rfl, hquoted⟩
    · exact absurd h (readWrong_ne_ok _ _ _)

theorem takes_readStringField : Takes readStringField fun value s => IsText s value :=
  takes_readTextAs _

theorem takes_readStringsField : Takes readStringsField fun _ _ => True := by
  apply Takes.placed
  intro cs ss rest h
  dsimp only at h
  split at h
  · cases h
  · next c tail hskip =>
    obtain ⟨blanks, rfl, hblanks⟩ := exists_blanks_of_cons hskip
    split at h
    · next hbracket =>
      obtain ⟨used, rfl, hused⟩ := of_readItems takes_readStringField h
      rw [hbracket]
      exact ⟨blanks, '[' :: used, by simp, hblanks, hused, trivial⟩
    · exact absurd h (readWrong_ne_ok _ _ _)

/-- Null stands for nothing. -/
theorem Takes.optional (h : Takes reader R) : Takes (readOptional reader) fun _ _ => True := by
  intro cs x rest hread
  unfold readOptional at hread
  split at hread
  · next tail hskip =>
    obtain ⟨blanks, rfl, hblanks⟩ := exists_blanks_of_cons hskip
    obtain ⟨behind, hword, hx⟩ := map_eq_ok.1 hread
    cases hx
    rw [eq_of_readWord hword]
    exact ⟨blanks, ['n', 'u', 'l', 'l'], by simp, hblanks, .null, trivial⟩
  · obtain ⟨⟨y, behind⟩, hy, hx⟩ := map_eq_ok.1 hread
    cases hx
    obtain ⟨blanks, value, hcs, hblanks, hvalue, -⟩ := h.behind_blanks hy
    exact ⟨blanks, value, hcs, hblanks, hvalue, trivial⟩

/-- The value is the name in quotes, or the object with null under the name. -/
def IsName (name : String) (value : List Char) : Prop :=
  IsText name value ∨ IsObject [(name, ['n', 'u', 'l', 'l'])] value

theorem takes_readName : Takes readName fun value name => IsName name value := by
  intro cs name rest h
  unfold readName at h
  split at h
  · next tail hskip =>
    -- the one member is read piece by piece
    obtain ⟨blanks, rfl, hblanks⟩ := exists_blanks_of_cons hskip
    obtain ⟨⟨name', behind⟩, hname, hcolon⟩ := bind_eq_ok.1 h
    obtain ⟨others, hbehind, hnull⟩ := bind_eq_ok.1 hcolon
    obtain ⟨last, hword, hend⟩ := bind_eq_ok.1 hnull
    split at hend
    · next tail' hskip' =>
      cases hend
      obtain ⟨before, value, rfl, hbefore, -, quoted, rfl, hquoted⟩ := takes_readStringField _ _ _ hname
      obtain ⟨between, rfl, hbetween⟩ := of_readColon hbehind
      obtain ⟨after, hafter, hafterBlanks⟩ := exists_blanks others
      obtain ⟨final, rfl, hfinal⟩ := exists_blanks_of_cons hskip'
      have hmember : IsMember name ['n', 'u', 'l', 'l'] _ :=
        .mk hbefore hquoted hbetween hafterBlanks .null
      have hobject := IsObject.members (.last hmember hfinal)
      refine ⟨blanks, _, ?_, hblanks, hobject.derives, .inr hobject⟩
      rw [hafter, eq_of_readWord hword]
      simp
    · cases hend
  · obtain ⟨blanks, value, hcs, hblanks, hderives, htext⟩ := takes_readStringField.behind_blanks h
    exact ⟨blanks, value, hcs, hblanks, hderives, .inl htext⟩

/-! ### Members in their order -/

/-- The members are those that are written. -/
def Lists (written : List (String × List Char)) (members : List (String × Value)) : Prop :=
  List.Forall₂ (fun w m => w.1 = m.1 ∧ Shows w.2 m.2) written members

lemma Lists.filter {written : List (String × List Char)} {members : List (String × Value)}
    (h : Lists written members) (key : String) :
    Lists (written.filter (·.1 == key)) (members.filter (·.1 == key)) :=
  List.rel_filter (fun _ _ h => by simp [h.1]) h

lemma lists_of_folds {before members : List (String × Value)} {written : List (String × List Char)}
    (h : Folds (Puts Shows fun members key _ v _ => members ++ [(key, v)]) before written members) :
    ∃ others, members = before ++ others ∧ Lists written others := by
  induction h with
  | nil s => exact ⟨[], (List.append_nil s).symm, .nil⟩
  | cons hfirst _ ih =>
    obtain ⟨cs, v, rest, ht, hshows⟩ := hfirst
    obtain ⟨others, hu, hothers⟩ := ih
    exact ⟨(_, v) :: others, by simp [hu, ht], .cons ⟨rfl, hshows⟩ hothers⟩

/-- The members of an object that are read in their order are those that are written. -/
theorem takes_readMemberList (depth : Nat) : Takes (readMemberList depth) fun value members =>
    ∃ written, IsObject written value ∧ Lists written members := by
  have hmember := takesMember_readMemberInto (takes_readValue depth)
    fun members key _ v _ => members ++ [(key, v)]
  refine (takes_readObjectBy hmember []).mono ?_
  rintro value members ⟨written, hobject, hfolds⟩
  obtain ⟨others, rfl, hothers⟩ := lists_of_folds hfolds
  exact ⟨written, hobject, hothers⟩

theorem takes_readWrittenMembers (depth : Nat) : Takes (readWrittenMembers depth) fun _ _ => True := by
  have hmember := takesMember_readMemberInto (takes_readValue depth)
    fun members key cs _ rest => members ++ [(key, cs.take (cs.length - rest.length))]
  exact (takes_readObjectBy hmember []).mono fun _ _ _ => trivial

/-! ### Whole texts -/

/-- A whole text that is read is a value with nothing but blanks around it. -/
theorem Takes.of_readWhole (h : Takes reader R) {cs : List Char} {x : α}
    (hread : readWhole reader cs = .ok x) : ∃ payload, IsJson cs payload ∧ R payload x := by
  obtain ⟨⟨y, behind⟩, hy, hrest⟩ := bind_eq_ok.1 hread
  obtain ⟨⟨⟩, hend, hx⟩ := bind_eq_ok.1 hrest
  cases hx
  obtain ⟨blanks, value, rfl, hblanks, hvalue, hR⟩ := h _ _ _ hy
  exact ⟨value, ⟨blanks, behind, rfl, hblanks, readEnd_eq_ok.1 hend, hvalue⟩, hR⟩

end

end EventGateway.Json

import EventGateway.Access.Header
import EventGateway.Proofs.Json.Fields

/-!
# Headers that are accepted

A header is an object, and exactly one of its members names the signature. Main statement:
`hasOnly_of_isHeader`.
-/

namespace EventGateway

open Json

lemma takes_readAlgorithm : Takes readAlgorithm fun value _ => IsName algorithm value := by
  intro cs x rest h
  obtain ⟨⟨name, behind⟩, hname, hcheck⟩ := bind_eq_ok.1 h
  dsimp only at hcheck
  split at hcheck
  · next halgorithm =>
    cases hcheck
    rw [← halgorithm]
    exact takes_readName _ _ _ hname
  · cases hcheck

lemma takes_readKey (depth : Nat) : Takes (readKey depth) fun _ _ => True := by
  intro cs x rest h
  obtain ⟨⟨members, behind⟩, hmembers, hcheck⟩ := bind_eq_ok.1 h
  dsimp only at hcheck
  split at hcheck
  · cases hcheck
    exact takes_readWrittenMembers depth _ _ _ hmembers
  · cases hcheck

/-! ### Members -/

/-- The name of the signature is read at most once, and no other member touches it. -/
def HeaderStep (s : HeaderPart) (key : String) (value : List Char) (t : HeaderPart) : Prop :=
  if key = "alg" then "alg" ∉ s.seen ∧ "alg" ∈ t.seen ∧ IsName algorithm value
  else t.hasAlgorithm = s.hasAlgorithm ∧ ("alg" ∈ t.seen ↔ "alg" ∈ s.seen)

lemma headerStep_other {s : HeaderPart} {key : String} (h : key ≠ "alg") (value : List Char) :
    HeaderStep s key value { s with seen := key :: s.seen } := by
  rw [HeaderStep, if_neg h]
  exact ⟨rfl, by simp [Ne.symm h]⟩

lemma takesMember_readHeaderMember : TakesMember readHeaderMember HeaderStep := by
  intro s key cs t rest h
  -- a member of another key, whatever its value is
  have hother {α : Type} {reader : Reader α} {R : List Char → α → Prop} (hreader : Takes reader R)
      {behind : List Char} (hcolon : readColon cs = .ok behind) (hkey : key ≠ "alg")
      (hread : (reader behind).map (fun p => ({ s with seen := key :: s.seen }, p.2)) =
        .ok (t, rest)) : ∃ between after value,
        cs = between ++ ':' :: (after ++ (value ++ rest)) ∧ IsBlanks between ∧ IsBlanks after ∧
          Derives .value value ∧ HeaderStep s key value t := by
    obtain ⟨⟨x, others⟩, hx, ht⟩ := map_eq_ok.1 hread
    cases ht
    obtain ⟨between, after, value, hcs, hbetween, hafter, hvalue, -⟩ := hreader.behind_colon hcolon hx
    exact ⟨between, after, value, hcs, hbetween, hafter, hvalue, headerStep_other hkey value⟩
  unfold readHeaderMember at h
  dsimp only at h
  split at h
  · cases h
  · next hknown =>
    obtain ⟨behind, hcolon, hvalue⟩ := bind_eq_ok.1 h
    split_ifs at hvalue with halg htext hlist hembedded
    · obtain ⟨⟨x, others⟩, hx, ht⟩ := map_eq_ok.1 hvalue
      cases ht
      obtain ⟨between, after, value, hcs, hbetween, hafter, hderives, hname⟩ :=
        takes_readAlgorithm.behind_colon hcolon hx
      refine ⟨between, after, value, hcs, hbetween, hafter, hderives, ?_⟩
      rw [HeaderStep, if_pos halg]
      exact ⟨by simpa [halg] using hknown, by simp [halg], hname⟩
    · exact hother takes_readStringField.optional hcolon halg hvalue
    · exact hother takes_readStringsField.optional hcolon halg hvalue
    · exact hother (takes_readKey _).optional hcolon halg hvalue
    · exact hother takes_readStringField hcolon halg hvalue

/-! ### Headers -/

lemma filter_of_folds {s t : HeaderPart} {members : List (String × List Char)}
    (h : Folds HeaderStep s members t) (hseen : "alg" ∈ s.seen) :
    members.filter (·.1 == "alg") = [] := by
  induction h with
  | nil s => rfl
  | @cons s t u key value members hfirst _ ih =>
    by_cases hkey : key = "alg"
    · rw [HeaderStep, if_pos hkey] at hfirst
      exact absurd hseen hfirst.1
    · rw [HeaderStep, if_neg hkey] at hfirst
      rw [List.filter_cons_of_neg (by simpa using hkey)]
      exact ih (hfirst.2.2 hseen)

lemma hasOnly_of_folds {s t : HeaderPart} {members : List (String × List Char)}
    (h : Folds HeaderStep s members t) (hs : s.hasAlgorithm = false) (ht : t.hasAlgorithm = true) :
    HasOnly members "alg" (IsName algorithm) := by
  induction h with
  | nil s =>
    rw [hs] at ht
    cases ht
  | @cons s t u key value members hfirst hrest ih =>
    by_cases hkey : key = "alg"
    · rw [HeaderStep, if_pos hkey] at hfirst
      refine ⟨value, ?_, hfirst.2.2⟩
      rw [List.filter_cons_of_pos (by simpa using hkey), filter_of_folds hrest hfirst.2.1, hkey]
    · rw [HeaderStep, if_neg hkey] at hfirst
      obtain ⟨value', hfilter, hname⟩ := ih (hfirst.1.trans hs) ht
      refine ⟨value', ?_, hname⟩
      rw [List.filter_cons_of_neg (by simpa using hkey), hfilter]

/-- A header is an object, and exactly one of its members is the name of the signature. -/
theorem hasOnly_of_isHeader {cs : List Char} (h : isHeader cs = true) :
    ∃ members, IsObjectText members cs ∧ HasOnly members "alg" (IsName algorithm) := by
  unfold isHeader at h
  split at h
  · next header hread =>
    obtain ⟨payload, hjson, members, hobject, hfolds⟩ :=
      (takes_readObjectBy takesMember_readHeaderMember {}).of_readWhole hread
    exact ⟨members, ⟨payload, hjson, hobject⟩, hasOnly_of_folds hfolds rfl h⟩
  · cases h

end EventGateway

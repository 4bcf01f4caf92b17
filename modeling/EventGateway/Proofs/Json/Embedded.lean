import EventGateway.Json.Embedded
import EventGateway.Proofs.Json.Fields
import EventGateway.Proofs.Json.Ordered

/-!
# Values that are given as texts

What is read as a value that may be given as a text is one value of the grammar where it stands, and the
objects in it are in order. A text that gives a value is read as any whole text is, as often as texts lie
in one another. Main statements: `takes_readExpanded`, `ordered_of_readExpanded` and `parseEmbedded_eq`.
-/

namespace EventGateway.Json

variable {parse parse' : String → Except TextFault Value} {cs rest : List Char} {v : Value}

/-! ### What is read -/

lemma of_readObjectEnd (h : readObjectEnd cs = .ok rest) :
    ∃ blanks, cs = blanks ++ '\x7d' :: rest ∧ IsBlanks blanks := by
  unfold readObjectEnd at h
  split at h
  · cases h
  · next c tail hskip =>
    obtain ⟨blanks, rfl, hblanks⟩ := exists_blanks_of_cons hskip
    split_ifs at h with hbrace
    cases h
    exact ⟨blanks, by rw [hbrace], hblanks⟩

lemma readEmbedded_eq_some {result : Except Fault (Value × List Char)}
    (h : readEmbedded parse cs = some result) : ∃ blanks quoted behind,
      cs = blanks ++ '"' :: (quoted ++ behind) ∧ IsBlanks blanks ∧ Spells quoted embeddedKey.toList ∧
      result = readBehindKey parse behind := by
  unfold readEmbedded at h
  split at h
  · next tail hskip =>
    obtain ⟨blanks, rfl, hblanks⟩ := exists_blanks_of_cons hskip
    split at h
    · next key behind hkey =>
      obtain ⟨quoted, rfl, hquoted⟩ := of_readString hkey
      obtain ⟨rfl, hresult⟩ := Option.ite_none_right_eq_some.1 h
      exact ⟨blanks, quoted, behind, rfl, hblanks, hquoted, (Option.some.inj hresult).symm⟩
    · cases h
  · cases h

/-- An object that gives a value as a text has a text below its only key, and the value is what the text
gives. -/
theorem of_readEmbedded (h : readEmbedded parse cs = some (.ok (v, rest))) : ∃ used value text,
    cs = used ++ rest ∧ IsObject [(embeddedKey, value)] ('\x7b' :: used) ∧ IsText text value ∧
      parse text = .ok v := by
  obtain ⟨blanks, quoted, behind, rfl, hblanks, hquoted, hresult⟩ := readEmbedded_eq_some h
  obtain ⟨behind, hcolon, hbehind⟩ := bind_eq_ok.1 hresult.symm
  obtain ⟨⟨text, others⟩, htext, hothers⟩ := bind_eq_ok.1 hbehind
  obtain ⟨w, hparse, hclose⟩ := bind_eq_ok.1 hothers
  obtain ⟨tail, hend, hv⟩ := bind_eq_ok.1 hclose
  cases hv
  obtain ⟨between, after, value, rfl, hbetween, hafter, hderives, hspelled⟩ :=
    (takes_readTextAs _).behind_colon hcolon htext
  obtain ⟨last, rfl, hlast⟩ := of_readObjectEnd hend
  refine ⟨_, value, text, ?_,
    .members (.last (.mk hblanks hquoted hbetween hafter hderives) hlast), hspelled,
    mapError_eq_ok.1 hparse⟩
  simp

lemma takesObject_readEmbedded (parse : String → Except TextFault Value) :
    TakesObject (readEmbedded parse) fun _ _ => True := by
  intro cs v rest h
  obtain ⟨used, value, text, rfl, hobject, -, -⟩ := of_readEmbedded h
  exact ⟨used, rfl, hobject.derives, trivial⟩

/-- What is read is one value of the grammar. -/
theorem takes_readExpanded (depth : Nat) : Takes (readExpanded depth) fun _ _ => True :=
  takes_readValueBy (fun _ _ _ => trivial) (takesObject_readEmbedded _) depth

lemma ordered_of_parseWithin {fuel : Nat} {text : String} (h : parseWithin fuel text = .ok v) :
    v.Ordered := by
  induction fuel generalizing text v with
  | zero => cases h
  | succ fuel ih =>
    obtain ⟨behind, hread, -⟩ := readText_eq_ok.1 h
    refine ordered_of_readValueBy (fun cs v rest hspecial => ?_) hread
    obtain ⟨-, -, inner, -, -, -, hparse⟩ := of_readEmbedded hspecial
    exact ih hparse

/-- The objects of a value that is read are in order, also of one that is given as a text. -/
theorem ordered_of_readExpanded {depth : Nat} (h : readExpanded depth cs = .ok (v, rest)) :
    v.Ordered := by
  refine ordered_of_readValueBy (fun cs v rest hspecial => ?_) h
  obtain ⟨-, -, text, -, -, -, hparse⟩ := of_readEmbedded hspecial
  exact ordered_of_parseWithin hparse

/-! ### Texts in one another -/

lemma Spells.length_lt {text : List Char} (h : Spells cs text) : text.length < cs.length := by
  induction h with
  | close => decide
  | plain | escape => simp only [List.length_cons]; omega
  | unicode | pair => simp only [List.length_cons, List.length_append]; omega

section

variable {α σ : Type} {n fuel : Nat} {first : Bool}

lemma Takes.length_le {reader : Reader α} {R : List Char → α → Prop} {x : α} (h : Takes reader R)
    (hread : reader cs = .ok (x, rest)) : rest.length ≤ cs.length := by
  obtain ⟨blanks, value, rfl, -⟩ := h _ _ _ hread
  simp only [List.length_append]
  omega

lemma length_skipBlanks_le (cs : List Char) : (skipBlanks cs).length ≤ cs.length :=
  (List.dropWhile_sublist _).length_le

/-- Items are read alike by readers that agree on what there is to read. -/
lemma readItems_congr {item item' : Reader α} {R : List Char → α → Prop} (htakes : Takes item R)
    (h : ∀ cs : List Char, cs.length ≤ n → item cs = item' cs) (hcs : cs.length ≤ n) :
    readItems item fuel first cs = readItems item' fuel first cs := by
  induction fuel generalizing first cs with
  | zero => rfl
  | succ fuel ih =>
    -- an item and those behind it
    have hitems {cs : List Char} (hcs : cs.length ≤ n) :
        (item cs >>= fun p => readItems item fuel false p.2 >>= fun q => .ok (p.1 :: q.1, q.2)) =
        (item' cs >>= fun p => readItems item' fuel false p.2 >>= fun q =>
          (.ok (p.1 :: q.1, q.2) : Except Fault (List α × List Char))) := by
      rw [← h cs hcs]
      refine bind_congr_of_ok fun p hitem => ?_
      rw [ih (Nat.le_trans (htakes.length_le hitem) hcs)]
    have hskip := Nat.le_trans (length_skipBlanks_le cs) hcs
    simp only [readItems]
    split
    · rfl
    · next c tail heq =>
      rw [heq] at hskip
      split_ifs
      · rfl
      · exact hitems hskip
      · have htail := Nat.le_trans (length_skipBlanks_le tail) (Nat.le_of_succ_le hskip)
        split
        · rfl
        · next d behind heq =>
          rw [heq] at htail
          split_ifs
          · rfl
          · exact hitems htail
      · rfl

/-- So are members. -/
lemma readMembers_congr {member member' : σ → String → Reader σ} {P : σ → String → List Char → σ → Prop}
    (htakes : TakesMember member P)
    (h : ∀ s key (cs : List Char), cs.length ≤ n → member s key cs = member' s key cs) {s : σ}
    (hcs : cs.length ≤ n) :
    readMembers member fuel first s cs = readMembers member' fuel first s cs := by
  induction fuel generalizing first s cs with
  | zero => rfl
  | succ fuel ih =>
    -- a member behind its opening quote and those behind it
    have hmembers {cs : List Char} (hcs : cs.length ≤ n) :
        (readString cs >>= fun p => member s p.1 p.2 >>= fun q =>
          readMembers member fuel false q.1 q.2) =
        (readString cs >>= fun p => member' s p.1 p.2 >>= fun q =>
          readMembers member' fuel false q.1 q.2) := by
      refine bind_congr_of_ok fun p hkey => ?_
      obtain ⟨quoted, rfl, -⟩ := of_readString hkey
      have hbehind : p.2.length ≤ n := by
        rw [List.length_append] at hcs
        omega
      rw [← h s p.1 p.2 hbehind]
      refine bind_congr_of_ok fun q hmember => ?_
      obtain ⟨between, after, value, hp, -⟩ := htakes _ _ _ _ _ hmember
      refine ih (Nat.le_trans ?_ hbehind)
      rw [hp]
      simp only [List.length_append, List.length_cons]
      omega
    have hskip := Nat.le_trans (length_skipBlanks_le cs) hcs
    simp only [readMembers]
    split
    · rfl
    · next c tail heq =>
      rw [heq] at hskip
      split_ifs
      · rfl
      · exact hmembers (Nat.le_of_succ_le hskip)
      · rfl
      · have htail := Nat.le_trans (length_skipBlanks_le tail) (Nat.le_of_succ_le hskip)
        split
        · rfl
        · next d behind heq =>
          rw [heq] at htail
          split_ifs
          · exact hmembers (Nat.le_of_succ_le htail)
          · rfl
          · rfl
      · rfl

/-- The value of a member is read behind its colon. -/
lemma readMemberInto_congr {put : σ → String → List Char → Value → List Char → σ}
    {value value' : Reader Value} (h : ∀ cs : List Char, cs.length ≤ n → value cs = value' cs) (s : σ)
    (key : String) (cs : List Char) (hcs : cs.length ≤ n) :
    readMemberInto put value s key cs = readMemberInto put value' s key cs := by
  refine bind_congr_of_ok fun behind hcolon => ?_
  obtain ⟨blanks, rfl, -⟩ := of_readColon hcolon
  simp only [List.length_append, List.length_cons] at hcs
  rw [h behind (by omega)]

/-- So are values, if the objects that need not be ones of members are. -/
lemma readValueBy_congr {special special' : Special} (htakes : TakesObject special fun _ _ => True)
    (h : ∀ cs : List Char, cs.length < n → special cs = special' cs) {depth : Nat}
    (hcs : cs.length ≤ n) : readValueBy special depth cs = readValueBy special' depth cs := by
  induction depth using Nat.strongRecOn generalizing cs with
  | ind depth ih =>
    have hskip := Nat.le_trans (length_skipBlanks_le cs) hcs
    rw [readValueBy_eq, readValueBy_eq]
    split
    · rfl
    · next c tail heq =>
      rw [heq] at hskip
      have htail : tail.length < n := hskip
      unfold readAfter
      split_ifs <;> try rfl
      · cases depth with
        | zero => rfl
        | succ inner =>
          have hvalue := takes_readValueBy (fun _ _ _ => trivial) htakes inner
          dsimp only
          rw [readItems_congr hvalue (fun _ => ih inner (Nat.lt_succ_self _)) (Nat.le_of_lt htail)]
      · cases depth with
        | zero => rfl
        | succ inner =>
          have hvalue := takes_readValueBy (fun _ _ _ => trivial) htakes inner
          dsimp only
          rw [h tail htail]
          split
          · rfl
          · rw [readMembers_congr (takesMember_readMemberInto hvalue _)
              (readMemberInto_congr fun _ => ih inner (Nat.lt_succ_self _)) (Nat.le_of_lt htail)]

/-- A text is shorter than what it is spelled by, so that only what is made of shorter ones decides. -/
lemma readBehindKey_congr (h : ∀ text : String, text.length < n → parse text = parse' text)
    (hcs : cs.length ≤ n) : readBehindKey parse cs = readBehindKey parse' cs := by
  refine bind_congr_of_ok fun behind hcolon => bind_congr_of_ok fun p htext => ?_
  obtain ⟨text, others⟩ := p
  obtain ⟨between, after, value, rfl, -, -, -, quoted, rfl, hquoted⟩ :=
    (takes_readTextAs _).behind_colon hcolon htext
  have hshorter : text.length < n := by
    have hlength := hquoted.length_lt
    simp only [List.length_append, List.length_cons] at hcs
    rw [← String.length_toList]
    omega
  simp only [h text hshorter]

lemma readEmbedded_congr (h : ∀ text : String, text.length < n → parse text = parse' text)
    (hcs : cs.length ≤ n) : readEmbedded parse cs = readEmbedded parse' cs := by
  unfold readEmbedded
  split
  · next tail hskip =>
    split
    · next key behind hkey =>
      obtain ⟨blanks, rfl, -⟩ := exists_blanks_of_cons hskip
      obtain ⟨quoted, rfl, -⟩ := of_readString hkey
      simp only [List.length_append, List.length_cons] at hcs
      rw [readBehindKey_congr h (by omega)]
    · rfl
  · rfl

lemma readText_congr (h : ∀ inner : String, inner.length < n → parse inner = parse' inner) {text : String}
    (htext : text.length ≤ n) (depth : Nat) :
    readText (readValueBy (readEmbedded parse) depth) text =
      readText (readValueBy (readEmbedded parse') depth) text := by
  have hlength : text.toList.length ≤ n := by rwa [String.length_toList]
  rw [readText, readText, readWhole, readWhole, readValueBy_congr (takesObject_readEmbedded _)
    (fun cs hcs => readEmbedded_congr h (Nat.le_of_lt hcs)) hlength]

end

/-- Texts that are read lie in one another less often than the outermost is long. -/
lemma parseWithin_eq {fuel fuel' : Nat} {text : String} (hfuel : text.length < fuel)
    (hfuel' : text.length < fuel') : parseWithin fuel text = parseWithin fuel' text := by
  induction fuel generalizing fuel' text with
  | zero => exact absurd hfuel (Nat.not_lt_zero _)
  | succ fuel ih =>
    obtain ⟨fuel', rfl⟩ := Nat.exists_eq_add_one_of_ne_zero (Nat.ne_zero_of_lt hfuel')
    refine readText_congr (n := text.length) (fun inner hinner => ih ?_ ?_) (Nat.le_refl _) _
    · omega
    · omega

/-- A text is read as a value that may be given as a text, or hold values that are. -/
theorem parseEmbedded_eq (text : String) :
    parseEmbedded text = readText (readExpanded (nestingLimit - 1)) text := by
  refine readText_congr (n := text.length) (fun inner hinner => ?_) (Nat.le_refl _) _
  exact parseWithin_eq hinner (Nat.lt_succ_self _)

/-- Such a text, in which another one lies. -/
example : (parseEmbedded ("[\x7b\"$serde_json::private::RawValue\":" ++
    "\"\x7b\\\"$serde_json::private::RawValue\\\":\\\"[1]\\\"\x7d\"\x7d]")).map Value.render =
      .ok "[[1]]" := by
  decide +kernel

end EventGateway.Json

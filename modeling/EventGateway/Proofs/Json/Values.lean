import EventGateway.Json.Record
import EventGateway.Proofs.Json.Numerals
import EventGateway.Proofs.Json.Spelling

/-!
# Values that are read

A reader takes a value of the grammar with blanks before it, and nothing else. A text that is read is
spelled by what is taken, a whole number is its numeral, and what is read from an object is made of its
members one after the other. Main statements: `takes_readValue` and `takes_readObjectBy`.
-/

namespace EventGateway.Json

/-! ### Texts -/

lemma isHexNumber_of_readHex {cs rest : List Char} {n : Nat} (h : readHex cs = .ok (n, rest)) :
    ∃ digits, cs = digits ++ rest ∧ IsHexNumber n digits := by
  unfold readHex at h
  split at h
  · next a b c d tail =>
    split at h
    · next ha hb hc hd =>
      cases h
      exact ⟨[a, b, c, d], rfl, .mk ha hb hc hd⟩
    · cases h
  · cases h

lemma of_expectInEscape {expected : Char} {cs rest : List Char}
    (h : expectInEscape expected cs = .ok rest) : cs = expected :: rest := by
  cases cs with
  | nil => cases h
  | cons c cs =>
    simp only [expectInEscape] at h
    split at h
    · next hc =>
      cases h
      rw [hc]
    · cases h

/-- One escape, or two of them, spell the character that is read. -/
lemma of_readCodePoint {cs rest : List Char} {c : Char} (h : readCodePoint cs = .ok (c, rest)) :
    ∃ used, cs = used ++ rest ∧
      ∀ others text, Spells others text → Spells ('\\' :: 'u' :: (used ++ others)) (c :: text) := by
  obtain ⟨⟨n, behind⟩, hhex, hpoint⟩ := bind_eq_ok.1 h
  obtain ⟨digits, rfl, hn⟩ := isHexNumber_of_readHex hhex
  dsimp only at hpoint
  split_ifs at hpoint with htrailing hleading
  · simp only [isLeading, Bool.and_eq_true, decide_eq_true_eq] at hleading
    obtain ⟨afterSlash, hslash, hpair⟩ := bind_eq_ok.1 hpoint
    obtain ⟨afterLetter, hletter, hdigits⟩ := bind_eq_ok.1 hpair
    obtain ⟨⟨m, others⟩, hhex', hsecond⟩ := bind_eq_ok.1 hdigits
    obtain ⟨digits', rfl, hm⟩ := isHexNumber_of_readHex hhex'
    dsimp only at hsecond
    split_ifs at hsecond with htrailing
    simp only [isTrailing, Bool.and_eq_true, decide_eq_true_eq] at htrailing
    obtain ⟨rfl, rfl⟩ := Prod.mk.inj (Except.ok.inj hsecond)
    rw [of_expectInEscape hslash, of_expectInEscape hletter]
    refine ⟨digits ++ '\\' :: 'u' :: digits', by simp, fun others text hothers => ?_⟩
    rw [List.append_assoc]
    exact .pair hn hleading.1 hleading.2 hm htrailing.1 htrailing.2 hothers
  · cases hpoint
    refine ⟨digits, rfl, fun others text hothers => .unicode hn ?_ hothers⟩
    simp only [isTrailing, isLeading, Bool.and_eq_true, decide_eq_true_eq] at htrailing hleading
    omega

lemma mem_escapes_of_simpleEscape? {letter c : Char} (h : simpleEscape? letter = some c) :
    (letter, c) ∈ escapes := by
  unfold simpleEscape? at h
  split at h
  all_goals first
    | cases h; decide
    | cases h

/-- What is read behind a backslash spells a character. -/
lemma of_readEscape {cs rest : List Char} {c : Char} (h : readEscape cs = .ok (c, rest)) :
    ∃ used, cs = used ++ rest ∧
      ∀ others text, Spells others text → Spells ('\\' :: (used ++ others)) (c :: text) := by
  cases cs with
  | nil => cases h
  | cons letter cs =>
    simp only [readEscape] at h
    split at h
    · next e hescape =>
      cases h
      exact ⟨[letter], rfl, fun others text => .escape (mem_escapes_of_simpleEscape? hescape)⟩
    · split at h
      · next hu =>
        obtain ⟨used, rfl, hused⟩ := of_readCodePoint h
        exact ⟨'u' :: used, by rw [hu]; rfl, hused⟩
      · cases h

lemma of_readChars {fuel : Nat} {cs text rest : List Char}
    (h : readChars fuel cs = .ok (text, rest)) : ∃ used, cs = used ++ rest ∧ Spells used text := by
  induction fuel generalizing cs text with
  | zero => cases h
  | succ fuel ih =>
    cases cs with
    | nil => cases h
    | cons c cs =>
      simp only [readChars] at h
      split_ifs at h with hquote hslash hcontrol
      · cases h
        exact ⟨['"'], by rw [hquote, List.singleton_append], .close⟩
      · obtain ⟨⟨e, behind⟩, hescape, h⟩ := bind_eq_ok.1 h
        obtain ⟨⟨es, behind⟩, hchars, h⟩ := bind_eq_ok.1 h
        cases h
        obtain ⟨escape, rfl, hspells⟩ := of_readEscape hescape
        obtain ⟨used, rfl, hused⟩ := ih hchars
        exact ⟨'\\' :: (escape ++ used), by simp [hslash], hspells used es hused⟩
      · obtain ⟨⟨es, behind⟩, hchars, h⟩ := bind_eq_ok.1 h
        cases h
        obtain ⟨used, rfl, hused⟩ := ih hchars
        exact ⟨c :: used, rfl, .plain hquote hslash (Nat.le_of_not_lt hcontrol) hused⟩

/-- A text that is read is spelled by what is taken. -/
lemma of_readString {cs rest : List Char} {s : String} (h : readString cs = .ok (s, rest)) :
    ∃ used, cs = used ++ rest ∧ Spells used s.toList := by
  obtain ⟨⟨text, behind⟩, hchars, h⟩ := bind_eq_ok.1 h
  cases h
  rw [String.toList_ofList]
  exact of_readChars hchars

/-! ### Readers of values -/

section

variable {α σ : Type}

/-- The reader takes a value of the grammar with blanks before it, and what it makes of the value is as
said. -/
def Takes (reader : Reader α) (R : List Char → α → Prop) : Prop :=
  ∀ cs x rest, reader cs = .ok (x, rest) → ∃ blanks value, cs = blanks ++ (value ++ rest) ∧
    IsBlanks blanks ∧ Derives .value value ∧ R value x

/-- The reader takes the colon and the value of a member, and what it makes of them is as said. -/
def TakesMember (member : σ → String → Reader σ) (P : σ → String → List Char → σ → Prop) : Prop :=
  ∀ s key cs t rest, member s key cs = .ok (t, rest) → ∃ between after value,
    cs = between ++ ':' :: (after ++ (value ++ rest)) ∧ IsBlanks between ∧ IsBlanks after ∧
      Derives .value value ∧ P s key value t

/-- The members bring the one state to the other, each as said. -/
inductive Folds (P : σ → String → List Char → σ → Prop) :
    σ → List (String × List Char) → σ → Prop
  | nil (s : σ) : Folds P s [] s
  | cons {s t u : σ} {key : String} {value : List Char} {members : List (String × List Char)} :
    P s key value t → Folds P t members u → Folds P s ((key, value) :: members) u

variable {reader item : Reader α} {R R' : List Char → α → Prop} {member : σ → String → Reader σ}
  {P : σ → String → List Char → σ → Prop}

lemma Takes.mono (h : Takes reader R) (hR : ∀ value x, R value x → R' value x) : Takes reader R' := by
  intro cs x rest hread
  obtain ⟨blanks, value, hcs, hblanks, hvalue, hx⟩ := h cs x rest hread
  exact ⟨blanks, value, hcs, hblanks, hvalue, hR value x hx⟩

/-- What stands behind a key is a colon and the value that is taken behind it. -/
lemma Takes.behind_colon (h : Takes reader R) {cs behind rest : List Char} {x : α}
    (hcolon : readColon cs = .ok behind) (hread : reader behind = .ok (x, rest)) :
    ∃ between after value, cs = between ++ ':' :: (after ++ (value ++ rest)) ∧ IsBlanks between ∧
      IsBlanks after ∧ Derives .value value ∧ R value x := by
  obtain ⟨between, rfl, hbetween⟩ := of_readColon hcolon
  obtain ⟨after, value, rfl, hafter, hvalue, hx⟩ := h _ _ _ hread
  exact ⟨between, after, value, rfl, hbetween, hafter, hvalue, hx⟩

/-! ### Arrays -/

/-- Blanks may stand before items. -/
lemma Derives.blanks_items {kind : Container} {blanks cs : List Char} (hblanks : IsBlanks blanks)
    (h : Derives (.items kind) cs) : Derives (.items kind) (blanks ++ cs) := by
  have hitem {cs : List Char} (h : Derives (.item kind) cs) : Derives (.item kind) (blanks ++ cs) := by
    cases h with
    | element hbefore hvalue =>
      rw [← List.append_assoc]
      exact .element (hblanks.append hbefore) hvalue
    | member hbefore hkey hbetween hafter hvalue =>
      rw [← List.append_assoc]
      exact .member (hblanks.append hbefore) hkey hbetween hafter hvalue
  cases h with
  | last hfirst hbehind =>
    rw [← List.append_assoc]
    exact .last (hitem hfirst) hbehind
  | more hfirst hbehind hothers =>
    rw [← List.append_assoc]
    exact .more (hitem hfirst) hbehind hothers

/-- What stands behind the opening bracket, or behind an item, up to and with the end of the array. -/
def EndsArray (first : Bool) (used : List Char) : Prop :=
  if first then Derives .value ('[' :: used)
  else ∀ item, Derives (.item .array) item → Derives (.items .array) (item ++ used)

lemma endsArray_nil {blanks : List Char} (h : IsBlanks blanks) (first : Bool) :
    EndsArray first (blanks ++ [']']) := by
  cases first with
  | true => exact @Derives.empty .array _ h
  | false => exact fun item hitem => @Derives.last .array _ _ hitem h

/-- Items that are read end their array. -/
lemma of_readItems (hitem : Takes item R) {fuel : Nat} {first : Bool} {cs rest : List Char}
    {xs : List α} (h : readItems item fuel first cs = .ok (xs, rest)) :
    ∃ used, cs = used ++ rest ∧ EndsArray first used := by
  induction fuel generalizing first cs xs with
  | zero => cases h
  | succ fuel ih =>
    -- an item and what follows it
    have hitems {cs : List Char} {xs : List α} (h : (item cs >>= fun p =>
        readItems item fuel false p.2 >>= fun q => .ok (p.1 :: q.1, q.2)) = .ok (xs, rest)) :
        ∃ used, cs = used ++ rest ∧ Derives (.items .array) used := by
      obtain ⟨⟨x, behind⟩, hfirst, h⟩ := bind_eq_ok.1 h
      obtain ⟨⟨ys, behind'⟩, hrest, h⟩ := bind_eq_ok.1 h
      cases h
      obtain ⟨blanks, value, rfl, hblanks, hvalue, -⟩ := hitem _ _ _ hfirst
      obtain ⟨used, rfl, hused⟩ := ih hrest
      exact ⟨blanks ++ value ++ used, by simp, hused _ (.element hblanks hvalue)⟩
    simp only [readItems] at h
    split at h
    · cases h
    · next c tail hskip =>
      obtain ⟨blanks, rfl, hblanks⟩ := exists_blanks_of_cons hskip
      split_ifs at h with hclose hfirst hcomma
      · cases h
        exact ⟨blanks ++ [']'], by simp [hclose], endsArray_nil hblanks first⟩
      · obtain ⟨used, hcs, hused⟩ := hitems h
        rw [hcs, hfirst]
        exact ⟨blanks ++ used, by simp, @Derives.container .array _ (hused.blanks_items hblanks)⟩
      · split at h
        · cases h
        · next d behind hskip =>
          obtain ⟨between, rfl, hbetween⟩ := exists_blanks_of_cons hskip
          split_ifs at h with hend
          obtain ⟨used, hcs, hused⟩ := hitems h
          rw [hcs, hcomma, Bool.eq_false_iff.2 hfirst]
          exact ⟨blanks ++ ',' :: (between ++ used), by simp, fun item hitem =>
            @Derives.more .array _ _ _ hitem hblanks (hused.blanks_items hbetween)⟩

/-! ### Objects -/

/-- What stands behind the opening brace, or behind a member, up to and with the end of the object. -/
def EndsObject (first : Bool) (members : List (String × List Char)) (used : List Char) : Prop :=
  if first then IsObject members ('\x7b' :: used)
  else ∀ key value cs, IsMember key value cs → IsMembers ((key, value) :: members) (cs ++ used)

lemma endsObject_nil {blanks : List Char} (h : IsBlanks blanks) (first : Bool) :
    EndsObject first [] (blanks ++ ['\x7d']) := by
  cases first with
  | true => exact .empty h
  | false => exact fun key value cs hmember => .last hmember h

/-- Members that are read end their object, and come to what each of them makes of the ones before. -/
lemma of_readMembers (hmember : TakesMember member P) {fuel : Nat} {first : Bool} {s t : σ}
    {cs rest : List Char} (h : readMembers member fuel first s cs = .ok (t, rest)) :
    ∃ members used, cs = used ++ rest.tail ∧ EndsObject first members used ∧
      Folds P s members t := by
  induction fuel generalizing first s cs with
  | zero => cases h
  | succ fuel ih =>
    -- a member behind its opening quote and what follows it
    have hmembers {blanks cs : List Char} (hblanks : IsBlanks blanks) (h : (readString cs >>= fun p =>
        member s p.1 p.2 >>= fun q => readMembers member fuel false q.1 q.2) = .ok (t, rest)) :
        ∃ members used, blanks ++ '"' :: cs = used ++ rest.tail ∧ IsMembers members used ∧
          Folds P s members t := by
      obtain ⟨⟨key, behind⟩, hkey, hvalue⟩ := bind_eq_ok.1 h
      obtain ⟨⟨u, others⟩, hfirst, hrest⟩ := bind_eq_ok.1 hvalue
      obtain ⟨quoted, rfl, hquoted⟩ := of_readString hkey
      obtain ⟨between, after, value, rfl, hbetween, hafter, hderives, hsaid⟩ := hmember _ _ _ _ _ hfirst
      obtain ⟨members, used, rfl, hused, hfolds⟩ := ih hrest
      refine ⟨(key, value) :: members, _, ?_, hused _ _ _ (.mk hblanks hquoted hbetween hafter hderives),
        .cons hsaid hfolds⟩
      simp
    simp only [readMembers] at h
    split at h
    · cases h
    · next c tail hskip =>
      obtain ⟨blanks, rfl, hblanks⟩ := exists_blanks_of_cons hskip
      split_ifs at h with hclose hfirst hquote hcomma
      · cases h
        exact ⟨[], blanks ++ ['\x7d'], by simp [hclose], endsObject_nil hblanks first, .nil _⟩
      · obtain ⟨members, used, hcs, hused, hfolds⟩ := hmembers hblanks h
        rw [hquote, hfirst, hcs]
        exact ⟨members, used, rfl, .members hused, hfolds⟩
      · split at h
        · cases h
        · next d behind hskip =>
          obtain ⟨between, rfl, hbetween⟩ := exists_blanks_of_cons hskip
          split_ifs at h with hquote
          obtain ⟨members, used, hcs, hused, hfolds⟩ := hmembers hbetween h
          rw [hcomma, hquote, hcs, Bool.eq_false_iff.2 hfirst]
          exact ⟨members, blanks ++ ',' :: used, by simp, fun key value cs hmember =>
            .more hmember hblanks hused, hfolds⟩

/-- What is read from an object is made of its members one after the other. -/
theorem takes_readObjectBy (hmember : TakesMember member P) (start : σ) :
    Takes (readObjectBy start member) fun value t =>
      ∃ members, IsObject members value ∧ Folds P start members t := by
  intro cs t rest h
  unfold readObjectBy at h
  split at h
  · next tail hskip =>
    obtain ⟨blanks, rfl, hblanks⟩ := exists_blanks_of_cons hskip
    obtain ⟨⟨u, behind⟩, hmembers, hend⟩ := bind_eq_ok.1 h
    cases hend
    obtain ⟨members, used, rfl, hused, hfolds⟩ := of_readMembers hmember hmembers
    have hobject : IsObject members ('\x7b' :: used) := hused
    exact ⟨blanks, _, rfl, hblanks, hobject.derives, members, hobject, hfolds⟩
  · cases h

end

/-! ### Values -/

/-- If the value is a text or a whole number, it is the one that is written. -/
def Shows (written : List Char) : Value → Prop
  | .string s => IsText s written
  | .number (.natural n) => written = Text.decimal n.toNat
  | .number (.negative n) => n.toNat ≠ 0 ∧ written = '-' :: Text.decimal n.toNat
  | _ => True

/-- Reads the colon and the value of a member, and puts it with the ones before. -/
def readMemberInto {σ : Type} (put : σ → String → List Char → Value → List Char → σ)
    (value : Reader Value) (s : σ) (key : String) : Reader σ := fun cs => do
  let cs ← readColon cs
  let (v, rest) ← value cs
  .ok (put s key cs v rest, rest)

/-- A value that is as said has been put with the members before. -/
def Puts {σ : Type} (R : List Char → Value → Prop)
    (put : σ → String → List Char → Value → List Char → σ) (s : σ) (key : String) (value : List Char)
    (t : σ) : Prop :=
  ∃ cs v rest, t = put s key cs v rest ∧ R value v

/-- How an object that need not be one of members is read from behind its opening brace. -/
abbrev Special := List Char → Option (Except Fault (Value × List Char))

/-- Reads a value of which the first character has been seen. -/
def readAfter (special : Special) (depth : Nat) (c : Char) (rest : List Char) :
    Except Fault (Value × List Char) :=
  if c = 'n' then (readWord ['u', 'l', 'l'] rest).map fun cs => (.null, cs)
  else if c = 't' then (readWord ['r', 'u', 'e'] rest).map fun cs => (.bool true, cs)
  else if c = 'f' then (readWord ['a', 'l', 's', 'e'] rest).map fun cs => (.bool false, cs)
  else if c = '-' then (readNumber false rest).map fun p => (.number p.1, p.2)
  else if c.isDigit then (readNumber true (c :: rest)).map fun p => (.number p.1, p.2)
  else if c = '"' then (readString rest).map fun p => (.string p.1, p.2)
  else if c = '[' then
    match depth with
    | 0 => .error (.next .tooDeep (c :: rest))
    | depth + 1 =>
      (readItems (readValueBy special depth) (rest.length + 1) true rest).map fun p =>
        (.array p.1, p.2)
  else if c = '\x7b' then
    match depth with
    | 0 => .error (.next .tooDeep (c :: rest))
    | depth + 1 =>
      match special rest with
      | some result => result
      | none => do
        let put (members : List (String × Value)) key _ v _ := insertMember key v members
        let (members, cs) ← readMembers (readMemberInto put (readValueBy special depth))
          (rest.length + 1) true [] rest
        .ok (.object members, cs.tail)
  else .error (.next .expectedValue (c :: rest))

lemma readValueBy_eq (special : Special) (depth : Nat) (cs : List Char) :
    readValueBy special depth cs =
      match skipBlanks cs with
      | [] => .error (.next .endInValue [])
      | c :: rest => readAfter special depth c rest := by
  rw [readValueBy.eq_def]
  rfl

lemma readValue_eq (depth : Nat) (cs : List Char) : readValue depth cs =
    match skipBlanks cs with
    | [] => .error (.next .endInValue [])
    | c :: rest => readAfter (fun _ => none) depth c rest :=
  readValueBy_eq _ depth cs

lemma of_readNumber {positive : Bool} {cs rest : List Char} {x : Number}
    (h : readNumber positive cs = .ok (x, rest)) : ∃ used, cs = used ++ rest ∧ IsNumber used ∧
      ((∃ y, x = .real y) ∨ ∃ n, x = (if positive then .natural n else .negative n) ∧
        (positive = true ∨ n.toNat ≠ 0) ∧ used = Text.decimal n.toNat) := by
  obtain ⟨hskip, hwhole⟩ := skipNumber_of_readNumber h
  obtain ⟨used, rfl, hused⟩ := of_skipNumber hskip
  refine ⟨used, rfl, hused, hwhole.imp_right ?_⟩
  rintro ⟨n, hx, hne, hn⟩
  exact ⟨n, hx, hne, List.append_cancel_right hn⟩

section

variable {special : Special} {R : List Char → Value → Prop} {reader : Reader Value}

lemma takesMember_readMemberInto {σ : Type} (h : Takes reader R)
    (put : σ → String → List Char → Value → List Char → σ) :
    TakesMember (readMemberInto put reader) (Puts R put) := by
  intro s key cs t rest hmember
  obtain ⟨behind, hcolon, hvalue⟩ := bind_eq_ok.1 hmember
  obtain ⟨⟨v, others⟩, hread, hend⟩ := bind_eq_ok.1 hvalue
  cases hend
  obtain ⟨between, after, value, hcs, hbetween, hafter, hderives, hsaid⟩ :=
    h.behind_colon hcolon hread
  exact ⟨between, after, value, hcs, hbetween, hafter, hderives, behind, v, _, rfl, hsaid⟩

/-- An object that need not be one of members is one of the grammar, and what it is read as is as said. -/
def TakesObject (special : Special) (R : List Char → Value → Prop) : Prop :=
  ∀ cs v rest, special cs = some (.ok (v, rest)) → ∃ used, cs = used ++ rest ∧
    Derives .value ('\x7b' :: used) ∧ R ('\x7b' :: used) v

lemma of_readAfter (hshows : ∀ value v, Shows value v → R value v) (hspecial : TakesObject special R)
    {depth : Nat} (hinner : ∀ inner, depth = inner + 1 → Takes (readValueBy special inner) R)
    {c : Char} {cs rest : List Char} {v : Value} (h : readAfter special depth c cs = .ok (v, rest)) :
    ∃ used, cs = used ++ rest ∧ Derives .value (c :: used) ∧ R (c :: used) v := by
  unfold readAfter at h
  split_ifs at h with hn ht hf hminus hdigit hquote hbracket hbrace
  · obtain ⟨behind, hword, hv⟩ := map_eq_ok.1 h
    cases hv
    exact ⟨_, eq_of_readWord hword, hn ▸ .null, hshows _ _ trivial⟩
  · obtain ⟨behind, hword, hv⟩ := map_eq_ok.1 h
    cases hv
    exact ⟨_, eq_of_readWord hword, ht ▸ .true, hshows _ _ trivial⟩
  · obtain ⟨behind, hword, hv⟩ := map_eq_ok.1 h
    cases hv
    exact ⟨_, eq_of_readWord hword, hf ▸ .false, hshows _ _ trivial⟩
  · obtain ⟨⟨x, behind⟩, hnumber, hv⟩ := map_eq_ok.1 h
    cases hv
    obtain ⟨used, rfl, hused, hwhole⟩ := of_readNumber hnumber
    refine ⟨used, rfl, hminus ▸ .negative hused, hshows _ _ ?_⟩
    obtain ⟨y, rfl⟩ | ⟨n, rfl, hne, rfl⟩ := hwhole
    · trivial
    · rw [hminus]
      exact ⟨hne.resolve_left (by decide), rfl⟩
  · obtain ⟨⟨x, behind⟩, hnumber, hv⟩ := map_eq_ok.1 h
    cases hv
    obtain ⟨used, hcs, hused, hwhole⟩ := of_readNumber hnumber
    obtain ⟨d, ds, rfl, -⟩ := hused.exists_eq_cons
    cases hcs
    refine ⟨ds, rfl, .number hused, hshows _ _ ?_⟩
    obtain ⟨y, rfl⟩ | ⟨n, rfl, -, hn⟩ := hwhole
    · trivial
    · exact hn
  · obtain ⟨⟨s, behind⟩, hstring, hv⟩ := map_eq_ok.1 h
    cases hv
    obtain ⟨used, rfl, hused⟩ := of_readString hstring
    rw [hquote]
    exact ⟨used, rfl, .string hused.isQuoted, hshows _ _ ⟨used, rfl, hused⟩⟩
  · cases depth with
    | zero => cases h
    | succ inner =>
      obtain ⟨⟨xs, behind⟩, hitems, hv⟩ := map_eq_ok.1 h
      cases hv
      obtain ⟨used, rfl, hused⟩ := of_readItems (hinner inner rfl) hitems
      exact ⟨used, rfl, hbracket ▸ hused, hshows _ _ trivial⟩
  · cases depth with
    | zero => cases h
    | succ inner =>
      dsimp only at h
      split at h
      · next result hresult =>
        subst h
        exact hbrace ▸ hspecial _ _ _ hresult
      · obtain ⟨⟨members, behind⟩, hmembers, hv⟩ := bind_eq_ok.1 h
        cases hv
        obtain ⟨others, used, rfl, hused, -⟩ :=
          of_readMembers (takesMember_readMemberInto (hinner inner rfl) _) hmembers
        have hobject : IsObject others ('\x7b' :: used) := hused
        exact ⟨used, rfl, hbrace ▸ hobject.derives, hshows _ _ trivial⟩

lemma takes_of_inner (hshows : ∀ value v, Shows value v → R value v) (hspecial : TakesObject special R)
    {depth : Nat} (hinner : ∀ inner, depth = inner + 1 → Takes (readValueBy special inner) R) :
    Takes (readValueBy special depth) R := by
  intro cs v rest h
  rw [readValueBy_eq] at h
  split at h
  · cases h
  · next c tail hskip =>
    obtain ⟨blanks, rfl, hblanks⟩ := exists_blanks_of_cons hskip
    obtain ⟨used, rfl, hused, hsaid⟩ := of_readAfter hshows hspecial hinner h
    exact ⟨blanks, c :: used, rfl, hblanks, hused, hsaid⟩

/-- What is read as a value is one of the grammar, and as said if whatever it shows is. -/
theorem takes_readValueBy (hshows : ∀ value v, Shows value v → R value v)
    (hspecial : TakesObject special R) (depth : Nat) : Takes (readValueBy special depth) R := by
  induction depth with
  | zero => exact takes_of_inner hshows hspecial nofun
  | succ depth ih =>
    apply takes_of_inner hshows hspecial
    rintro inner ⟨⟩
    exact ih

end

/-- What is read as a value is one of the grammar, and shows it if it is a text or a whole number. -/
theorem takes_readValue (depth : Nat) : Takes (readValue depth) Shows :=
  takes_readValueBy (fun _ _ => id) (fun _ _ _ h => by cases h) depth

end EventGateway.Json

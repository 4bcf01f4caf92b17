import EventGateway.Json.Reader
import EventGateway.Proofs.Json.Grammar
import Mathlib.Tactic.SplitIfs

/-!
# Passing over values

To pass over a value takes a text that the grammar derives off the front of what is left, and every text
that the grammar derives is taken, as long as what follows it cannot belong to a number. So what a value
is does not depend on where it stands: a value that has been found in one text is found in another.
-/

namespace EventGateway.Json

/-! ### Results -/

section

variable {ε ε' α β : Type}

lemma bind_eq_ok {x : Except ε α} {f : α → Except ε β} {b : β} :
    (x >>= f) = .ok b ↔ ∃ a, x = .ok a ∧ f a = .ok b := by
  cases x <;> simp [bind, Except.bind]

/-- What goes on after a result may be replaced by what does the same with it. -/
lemma bind_congr_of_ok {x : Except ε α} {f g : α → Except ε β} (h : ∀ a, x = .ok a → f a = g a) :
    (x >>= f) = (x >>= g) := by
  cases x with
  | error e => rfl
  | ok a => exact h a rfl

lemma map_eq_ok {x : Except ε α} {f : α → β} {b : β} :
    x.map f = .ok b ↔ ∃ a, x = .ok a ∧ f a = b := by
  cases x <;> simp [Except.map]

lemma mapError_eq_ok {x : Except ε α} {f : ε → ε'} {a : α} : x.mapError f = .ok a ↔ x = .ok a := by
  cases x <;> simp [Except.mapError]

end

/-- What is read from a whole text is read from its front, and no more than blanks are left. -/
lemma readText_eq_ok {α : Type} {reader : Reader α} {text : String} {x : α} :
    readText reader text = .ok x ↔
      ∃ rest, reader text.toList = .ok (x, rest) ∧ readEnd rest = .ok () := by
  rw [readText, mapError_eq_ok, readWhole, bind_eq_ok]
  constructor
  · rintro ⟨⟨y, rest⟩, hread, hrest⟩
    obtain ⟨_, hend, hresult⟩ := bind_eq_ok.1 hrest
    cases hresult
    exact ⟨rest, hread, hend⟩
  · rintro ⟨rest, hread, hend⟩
    exact ⟨(x, rest), hread, bind_eq_ok.2 ⟨(), hend, rfl⟩⟩

/-! ### Ends of values -/

/-- Nothing at the front of the text could go on with a number. -/
structure Ends (cs : List Char) : Prop where
  digit : startsWithDigit cs = false
  exponent : startsWithExponent cs = false
  point : ∀ rest, cs ≠ '.' :: rest

lemma ends_separator {c : Char} (hc : c = ',' ∨ c = ']' ∨ c = '\x7d') (rest : List Char) :
    Ends (c :: rest) := by
  obtain rfl | rfl | rfl := hc <;> exact ⟨rfl, rfl, fun _ => by simp⟩

lemma ends_closing (kind : Container) (rest : List Char) : Ends (kind.closing :: rest) := by
  cases kind with
  | array => exact ends_separator (.inr (.inl rfl)) rest
  | object => exact ends_separator (.inr (.inr rfl)) rest

/-! ### Blanks -/

lemma isBlank_iff (c : Char) : isBlank c = true ↔ c ∈ [' ', '\n', '\t', '\r'] := by
  simp [isBlank, or_assoc]

lemma skipBlanks_cons {c : Char} (hc : isBlank c = false) (rest : List Char) :
    skipBlanks (c :: rest) = c :: rest := by
  simp [skipBlanks, hc]

lemma skipBlanks_append {blanks : List Char} (h : IsBlanks blanks) (cs : List Char) :
    skipBlanks (blanks ++ cs) = skipBlanks cs :=
  List.dropWhile_append_of_pos fun c hc => (isBlank_iff c).2 (h c hc)

lemma exists_blanks (cs : List Char) : ∃ blanks, cs = blanks ++ skipBlanks cs ∧ IsBlanks blanks := by
  refine ⟨cs.takeWhile isBlank, List.takeWhile_append_dropWhile.symm, fun c hc => ?_⟩
  have hall := List.all_takeWhile (p := isBlank) (l := cs)
  exact (isBlank_iff c).1 (List.all_eq_true.1 hall c hc)

lemma skipBlanks_skipBlanks (cs : List Char) : skipBlanks (skipBlanks cs) = skipBlanks cs := by
  induction cs with
  | nil => rfl
  | cons c cs ih => by_cases hc : isBlank c = true <;> simp_all [skipBlanks]

/-- The first character behind the blanks, and the blanks before it. -/
lemma exists_blanks_of_cons {cs rest : List Char} {c : Char} (h : skipBlanks cs = c :: rest) :
    ∃ blanks, cs = blanks ++ c :: rest ∧ IsBlanks blanks := by
  obtain ⟨blanks, hcs, hblanks⟩ := exists_blanks cs
  exact ⟨blanks, h ▸ hcs, hblanks⟩

lemma Ends.blanks_append {blanks cs : List Char} (h : IsBlanks blanks) (hends : Ends cs) :
    Ends (blanks ++ cs) := by
  cases blanks with
  | nil => exact hends
  | cons b blanks =>
    have hb := h b (List.mem_cons_self ..)
    simp only [List.mem_cons, List.not_mem_nil, or_false] at hb
    obtain rfl | rfl | rfl | rfl := hb <;> exact ⟨rfl, rfl, fun _ => by simp⟩

lemma ends_of_isBlanks {blanks : List Char} (h : IsBlanks blanks) : Ends blanks := by
  have hends : Ends [] := ⟨rfl, rfl, nofun⟩
  simpa using hends.blanks_append h

lemma IsFirst.isBlank {c : Char} (h : IsFirst c) : isBlank c = false := by
  rw [Bool.eq_false_iff, Ne, isBlank_iff]
  intro hblank
  simp only [List.mem_cons, List.not_mem_nil, or_false] at hblank
  obtain rfl | rfl | rfl | rfl := hblank <;> exact absurd h (by simp [IsFirst])

lemma IsFirst.ne_closing {c : Char} (h : IsFirst c) (kind : Container) : c ≠ kind.closing := by
  rintro rfl
  cases kind <;> simp [IsFirst, Container.closing] at h

/-! ### Words and texts -/

lemma eq_of_readWord {word cs rest : List Char} (h : readWord word cs = .ok rest) :
    cs = word ++ rest := by
  induction word generalizing cs with
  | nil =>
    cases h
    rfl
  | cons w ws ih =>
    cases cs with
    | nil => cases h
    | cons c cs =>
      simp only [readWord] at h
      split at h
      · next hc => rw [hc, ih h, List.cons_append]
      · cases h

@[simp] lemma readWord_append (word rest : List Char) : readWord word (word ++ rest) = .ok rest := by
  induction word with
  | nil => rfl
  | cons w ws ih => simpa [readWord] using ih

lemma isHex_iff (c : Char) : IsHex c ↔ ∃ n, Text.hexValue? c = some n := by
  unfold IsHex Text.hexValue?
  split_ifs with hd hsmall hlarge
  · simp [hd]
  · simp [hsmall]
  · simp [hlarge]
  · simp [hd, hsmall, hlarge]

lemma of_readHex {cs rest : List Char} {n : Nat} (h : readHex cs = .ok (n, rest)) :
    ∃ a b c d, cs = a :: b :: c :: d :: rest ∧ IsHex a ∧ IsHex b ∧ IsHex c ∧ IsHex d := by
  unfold readHex at h
  split at h
  · next a b c d tail =>
    split at h
    · next ha hb hc hd =>
      cases h
      exact ⟨a, b, c, d, rfl, (isHex_iff a).2 ⟨_, ha⟩, (isHex_iff b).2 ⟨_, hb⟩,
        (isHex_iff c).2 ⟨_, hc⟩, (isHex_iff d).2 ⟨_, hd⟩⟩
    · cases h
  · cases h

lemma exists_readHex {a b c d : Char} (ha : IsHex a) (hb : IsHex b) (hc : IsHex c) (hd : IsHex d)
    (rest : List Char) : ∃ n, readHex (a :: b :: c :: d :: rest) = .ok (n, rest) := by
  obtain ⟨a', ha⟩ := (isHex_iff a).1 ha
  obtain ⟨b', hb⟩ := (isHex_iff b).1 hb
  obtain ⟨c', hc⟩ := (isHex_iff c).1 hc
  obtain ⟨d', hd⟩ := (isHex_iff d).1 hd
  simp only [readHex, ha, hb, hc, hd]
  exact ⟨_, rfl⟩

lemma isSome_simpleEscape?_iff (c : Char) :
    (simpleEscape? c).isSome = true ↔ c ∈ ['"', '\\', '/', 'b', 'f', 'n', 'r', 't'] := by
  unfold simpleEscape?
  split <;> simp_all

/-- What is passed over behind a backslash goes on with a text. -/
lemma of_skipEscape {cs rest : List Char} (h : skipEscape cs = .ok rest) :
    ∃ used, cs = used ++ rest ∧
      ∀ others, IsQuoted others → IsQuoted ('\\' :: (used ++ others)) := by
  cases cs with
  | nil => cases h
  | cons c cs =>
    simp only [skipEscape] at h
    split at h
    · next hc =>
      cases h
      exact ⟨[c], rfl, fun others => .escape ((isSome_simpleEscape?_iff c).1 hc)⟩
    · split at h
      · next hu =>
        obtain ⟨⟨n, tail⟩, hhex, rfl⟩ := map_eq_ok.1 h
        obtain ⟨x, y, z, w, rfl, hx, hy, hz, hw⟩ := of_readHex hhex
        subst hu
        exact ⟨['u', x, y, z, w], rfl, fun others => .unicode hx hy hz hw⟩
      · cases h

lemma of_skipChars {fuel : Nat} {cs rest : List Char} (h : skipChars fuel cs = .ok rest) :
    ∃ used, cs = used ++ rest ∧ IsQuoted used := by
  induction fuel generalizing cs with
  | zero => cases h
  | succ fuel ih =>
    cases cs with
    | nil => cases h
    | cons c cs =>
      simp only [skipChars] at h
      split_ifs at h with hquote hslash hcontrol
      · cases h
        exact ⟨['"'], by rw [hquote, List.singleton_append], .close⟩
      · obtain ⟨tail, hskip, htail⟩ := bind_eq_ok.1 h
        obtain ⟨escape, rfl, hescape⟩ := of_skipEscape hskip
        obtain ⟨used, rfl, hused⟩ := ih htail
        exact ⟨'\\' :: (escape ++ used), by simp [hslash], hescape used hused⟩
      · obtain ⟨used, rfl, hused⟩ := ih h
        exact ⟨c :: used, rfl, .plain hquote hslash (Nat.le_of_not_lt hcontrol) hused⟩

/-- A text is passed over in any number of steps that is not less than its length. -/
lemma skipChars_append {cs : List Char} (h : IsQuoted cs) {fuel : Nat} (hfuel : cs.length ≤ fuel)
    (more : List Char) : skipChars fuel (cs ++ more) = .ok more := by
  induction h generalizing fuel with
  | close =>
    obtain ⟨fuel, rfl⟩ := Nat.exists_eq_add_of_le' hfuel
    rfl
  | @plain c cs hquote hslash hcontrol _ ih =>
    obtain ⟨fuel, rfl⟩ := Nat.exists_eq_add_of_le' (Nat.le_of_add_left_le hfuel)
    simp only [List.cons_append, skipChars]
    rw [if_neg hquote, if_neg hslash, if_neg (Nat.not_lt.2 hcontrol)]
    exact ih (Nat.le_of_succ_le_succ hfuel)
  | @escape c cs hc _ ih =>
    obtain ⟨fuel, rfl⟩ := Nat.exists_eq_add_of_le' (Nat.le_of_add_left_le hfuel)
    simp only [List.cons_append, skipChars]
    rw [if_neg (by decide), if_pos True.intro, skipEscape, if_pos ((isSome_simpleEscape?_iff c).2 hc)]
    simp only [List.length_cons] at hfuel
    exact ih (by omega)
  | @unicode x y z w cs hx hy hz hw _ ih =>
    obtain ⟨fuel, rfl⟩ := Nat.exists_eq_add_of_le' (Nat.le_of_add_left_le hfuel)
    obtain ⟨n, hn⟩ := exists_readHex hx hy hz hw (cs ++ more)
    simp only [List.cons_append, skipChars]
    rw [if_neg (by decide), if_pos True.intro, skipEscape, if_neg (by decide), if_pos rfl, hn]
    simp only [List.length_cons] at hfuel
    exact ih (by omega)

lemma of_skipString {cs rest : List Char} (h : skipString cs = .ok rest) :
    ∃ used, cs = used ++ rest ∧ IsQuoted used :=
  of_skipChars h

lemma skipString_append {cs : List Char} (h : IsQuoted cs) (more : List Char) :
    skipString (cs ++ more) = .ok more := by
  apply skipChars_append h
  rw [List.length_append]
  omega

/-! ### Numbers -/

lemma spanDigits_append {ds rest : List Char} (hds : IsDigits ds)
    (hrest : startsWithDigit rest = false) : spanDigits (ds ++ rest) = (ds, rest) := by
  rw [spanDigits, List.takeWhile_append_of_pos hds, List.dropWhile_append_of_pos hds]
  cases rest with
  | nil => simp
  | cons c rest =>
    have hc : c.isDigit = false := hrest
    simp [hc]

lemma exists_spanDigits (cs : List Char) : ∃ ds rest, cs = ds ++ rest ∧ spanDigits cs = (ds, rest) ∧
    IsDigits ds := by
  refine ⟨cs.takeWhile Char.isDigit, cs.dropWhile Char.isDigit, by simp, rfl, fun d hd => ?_⟩
  exact List.all_eq_true.1 (List.all_takeWhile (p := Char.isDigit) (l := cs)) d hd

lemma startsWithDigit_append {ds rest : List Char} (hds : IsDigits ds)
    (hrest : startsWithDigit rest = false) : startsWithDigit (ds ++ rest) = !ds.isEmpty := by
  cases ds with
  | nil => exact hrest
  | cons d ds => exact hds d (List.mem_cons_self ..)

/-- Drops the sign of an exponent. -/
def dropSign : List Char → List Char
  | '+' :: rest => rest
  | '-' :: rest => rest
  | cs => cs

/-- Passes over the digits of an exponent, of which there is one at least. -/
def skipSomeDigits (cs : List Char) : Except Fault (List Char) :=
  match cs with
  | [] => .error (.here .invalidNumber [])
  | c :: rest => if c.isDigit then .ok (spanDigits rest).2 else .error (.after .invalidNumber cs)

lemma skipExponent_eq (cs : List Char) : skipExponent cs = skipSomeDigits (dropSign cs) := by
  unfold skipExponent
  split
  · rfl
  · rfl
  · next hplus hminus =>
    have hsign : dropSign cs = cs := by
      unfold dropSign
      split
      · exact absurd rfl (hplus _)
      · exact absurd rfl (hminus _)
      · rfl
    rw [hsign]
    rfl

lemma exists_sign (cs : List Char) : ∃ sign ∈ [[], ['+'], ['-']], cs = sign ++ dropSign cs := by
  unfold dropSign
  split
  · exact ⟨['+'], by simp, rfl⟩
  · exact ⟨['-'], by simp, rfl⟩
  · exact ⟨[], by simp, rfl⟩

lemma dropSign_append {sign : List Char} (h : sign ∈ [[], ['+'], ['-']]) {d : Char}
    (hd : d.isDigit = true) (rest : List Char) : dropSign (sign ++ d :: rest) = d :: rest := by
  simp only [List.mem_cons, List.not_mem_nil, or_false] at h
  obtain rfl | rfl | rfl := h
  · rw [List.nil_append]
    unfold dropSign
    split
    · next heq =>
      cases heq
      exact absurd hd (by decide)
    · next heq =>
      cases heq
      exact absurd hd (by decide)
    · rfl
  · rfl
  · rfl

lemma of_skipOptionalExponent {cs rest : List Char} (h : skipOptionalExponent cs = .ok rest) :
    ∃ used, cs = used ++ rest ∧ IsExponent used := by
  unfold skipOptionalExponent at h
  split at h
  · next hmark =>
    cases cs with
    | nil => cases hmark
    | cons mark cs =>
      obtain ⟨sign, hsign, hcs⟩ := exists_sign cs
      rw [List.tail_cons, skipExponent_eq] at h
      unfold skipSomeDigits at h
      split at h
      · cases h
      · next d tail heq =>
        split at h
        · next hd =>
          obtain ⟨ds, tail, rfl, hspan, hds⟩ := exists_spanDigits tail
          rw [hspan] at h
          cases h
          rw [heq] at hcs
          refine ⟨mark :: (sign ++ d :: ds), by simp [hcs], .digits ?_ hsign hd hds⟩
          simpa [startsWithExponent] using hmark
        · cases h
  · cases h
    exact ⟨[], rfl, .none⟩

lemma skipOptionalExponent_append {cs more : List Char} (h : IsExponent cs) (hends : Ends more) :
    skipOptionalExponent (cs ++ more) = .ok more := by
  cases h with
  | none => simp [skipOptionalExponent, hends.exponent]
  | @digits mark d sign ds hmark hsign hd hds =>
    have hstart : startsWithExponent (mark :: (sign ++ d :: (ds ++ more))) = true := by
      simpa [startsWithExponent] using hmark
    rw [List.cons_append, List.append_assoc, List.cons_append, skipOptionalExponent, if_pos hstart,
      List.tail_cons, skipExponent_eq, dropSign_append hsign hd, skipSomeDigits, if_pos hd,
      spanDigits_append hds hends.digit]

/-- Behind the digits of a fraction, an exponent cannot go on with them. -/
lemma IsExponent.startsWithDigit_append {cs more : List Char} (h : IsExponent cs)
    (hends : Ends more) : startsWithDigit (cs ++ more) = false := by
  cases h with
  | none => exact hends.digit
  | digits hmark _ _ _ =>
    simp only [List.mem_cons, List.not_mem_nil, or_false] at hmark
    obtain rfl | rfl := hmark <;> rfl

lemma IsExponent.append_ne_point {cs more : List Char} (h : IsExponent cs) (hends : Ends more)
    (rest : List Char) : cs ++ more ≠ '.' :: rest := by
  cases h with
  | none => exact hends.point rest
  | digits hmark _ _ _ =>
    rintro heq
    cases heq
    exact absurd hmark (by decide)

/-- Passes over what may stand behind the digits of a whole number. -/
def skipFraction (cs : List Char) : Except Fault (List Char) :=
  match cs with
  | '.' :: rest =>
    let (digits, rest) := spanDigits rest
    if digits.isEmpty then .error (.next .invalidNumber rest) else skipOptionalExponent rest
  | rest => skipOptionalExponent rest

lemma skipNumber_eq (c : Char) (cs : List Char) : skipNumber (c :: cs) =
    if !c.isDigit then .error (.after .invalidNumber (c :: cs))
    else if c = '0' ∧ startsWithDigit cs then .error (.next .invalidNumber cs)
    else skipFraction (spanDigits cs).2 := rfl

lemma of_skipFraction {cs rest : List Char} (h : skipFraction cs = .ok rest) :
    ∃ fraction exponent, cs = fraction ++ (exponent ++ rest) ∧ IsFraction fraction ∧
      IsExponent exponent := by
  unfold skipFraction at h
  split at h
  · next tail =>
    obtain ⟨ds, tail, rfl, hspan, hds⟩ := exists_spanDigits tail
    rw [hspan] at h
    cases ds with
    | nil => cases h
    | cons d ds =>
      obtain ⟨exponent, rfl, hexponent⟩ := of_skipOptionalExponent h
      have hfraction : IsFraction ('.' :: d :: ds) :=
        .digits (hds d (List.mem_cons_self ..)) fun x hx => hds x (List.mem_cons_of_mem _ hx)
      exact ⟨'.' :: d :: ds, exponent, rfl, hfraction, hexponent⟩
  · obtain ⟨exponent, rfl, hexponent⟩ := of_skipOptionalExponent h
    exact ⟨[], exponent, rfl, .none, hexponent⟩

lemma skipFraction_append {fraction exponent more : List Char} (hfraction : IsFraction fraction)
    (hexponent : IsExponent exponent) (hends : Ends more) :
    skipFraction (fraction ++ (exponent ++ more)) = .ok more := by
  cases hfraction with
  | none =>
    unfold skipFraction
    split
    · next heq => exact absurd heq (hexponent.append_ne_point hends _)
    · exact skipOptionalExponent_append hexponent hends
  | @digits d ds hd hds =>
    have hall : IsDigits (d :: ds) := by
      intro x hx
      obtain rfl | hx := List.mem_cons.1 hx
      · exact hd
      · exact hds x hx
    have hspan := spanDigits_append hall (hexponent.startsWithDigit_append hends)
    rw [List.cons_append, skipFraction, hspan]
    exact skipOptionalExponent_append hexponent hends

lemma of_skipNumber {cs rest : List Char} (h : skipNumber cs = .ok rest) :
    ∃ used, cs = used ++ rest ∧ IsNumber used := by
  cases cs with
  | nil => cases h
  | cons c cs =>
    rw [skipNumber_eq] at h
    split_ifs at h with hc hzero
    obtain ⟨ds, tail, rfl, hspan, hds⟩ := exists_spanDigits cs
    rw [hspan] at h
    obtain ⟨fraction, exponent, rfl, hfraction, hexponent⟩ := of_skipFraction h
    have hwhole : IsWhole (c :: ds) := by
      by_cases hc0 : c = '0'
      · cases ds with
        | nil => exact hc0 ▸ .zero
        | cons d ds => exact absurd ⟨hc0, hds d (List.mem_cons_self ..)⟩ hzero
      · exact .digits (by simpa using hc) hc0 hds
    exact ⟨c :: ds ++ (fraction ++ exponent), by simp, hwhole, hfraction, hexponent⟩

lemma IsFraction.startsWithDigit_append {cs others : List Char} (h : IsFraction cs)
    (hothers : startsWithDigit others = false) : startsWithDigit (cs ++ others) = false := by
  cases h with
  | none => exact hothers
  | digits _ _ => rfl

lemma skipNumber_append {cs more : List Char} (h : IsNumber cs) (hends : Ends more) :
    skipNumber (cs ++ more) = .ok more := by
  obtain @⟨whole, fraction, exponent, hwhole, hfraction, hexponent⟩ := h
  have hrest := skipFraction_append hfraction hexponent hends
  have hstart := hfraction.startsWithDigit_append (hexponent.startsWithDigit_append hends)
  rw [List.append_assoc, List.append_assoc]
  cases hwhole with
  | zero =>
    have hspan := spanDigits_append (show IsDigits [] from nofun) hstart
    rw [List.singleton_append, skipNumber_eq, if_neg (by decide), if_neg (by simp [hstart])]
    rw [List.nil_append] at hspan
    rw [hspan]
    exact hrest
  | digits hd hne hds =>
    rw [List.cons_append, skipNumber_eq, if_neg (by simp [hd]), if_neg (by simp [hne]),
      spanDigits_append hds hstart]
    exact hrest

/-! ### Containers -/

/-- A reader that only passes over something. -/
abbrev Skipper := List Char → Except Fault (List Char)

/-- The reader takes texts of the part, and nothing else. -/
def Passes (part : Part) (skip : Skipper) : Prop :=
  ∀ cs rest, skip cs = .ok rest → ∃ used, cs = used ++ rest ∧ Derives part used

/-- Passes over items with commas between them up to and with the end of their container. -/
def skipSequence (close : Char) (unclosed unseparated : GrammarFault) (item : Skipper) :
    (fuel : Nat) → Skipper
  | 0, cs => .error (.next unclosed cs)
  | fuel + 1, cs => do
    let cs ← item cs
    match skipBlanks cs with
    | [] => .error (.next unclosed [])
    | c :: rest =>
      if c = ',' then skipSequence close unclosed unseparated item fuel rest
      else if c = close then .ok rest
      else .error (.next unseparated (c :: rest))

/-- Passes over a member of an object. -/
def skipMember (value : Skipper) : Skipper := fun cs =>
  match skipBlanks cs with
  | [] => .error (.next .endInObject [])
  | c :: rest =>
    if c ≠ '"' then .error (.next .keyNotString (c :: rest))
    else do
      let cs ← skipString rest
      let cs ← readColon cs
      value cs

lemma skipItems_eq (value : Skipper) (fuel : Nat) (cs : List Char) : skipItems value fuel cs =
    skipSequence ']' .endInArray .expectedCommaOrBracket value fuel cs := by
  induction fuel generalizing cs with
  | zero => rfl
  | succ fuel ih =>
    have hrest : skipItems value fuel = skipSequence ']' _ _ value fuel := funext ih
    rw [skipItems, hrest]
    rfl

lemma skipMembers_eq (value : Skipper) (fuel : Nat) (cs : List Char) : skipMembers value fuel cs =
    skipSequence '\x7d' .endInObject .expectedCommaOrBrace (skipMember value) fuel cs := by
  induction fuel generalizing cs with
  | zero => rfl
  | succ fuel ih =>
    have hrest : skipMembers value fuel = skipSequence '\x7d' _ _ (skipMember value) fuel := funext ih
    rw [skipMembers, hrest]
    change _ = skipMember value cs >>= _
    rw [skipMember]
    cases skipBlanks cs with
    | nil => rfl
    | cons c rest =>
      dsimp only
      by_cases hc : c = '"'
      · rw [if_neg (not_not_intro hc), if_neg (not_not_intro hc), bind_assoc]
        exact bind_congr fun behind => (bind_assoc (readColon behind) value _).symm
      · rw [if_pos hc, if_pos hc]
        rfl

namespace Container

def unclosed : Container → GrammarFault
  | array => .endInArray
  | object => .endInObject

def unseparated : Container → GrammarFault
  | array => .expectedCommaOrBracket
  | object => .expectedCommaOrBrace

/-- Passes over one item. -/
def skipItem (kind : Container) (value : Skipper) : Skipper :=
  match kind with
  | array => value
  | object => skipMember value

/-- Passes over the items and the end of the container. -/
def skipItems (kind : Container) (value : Skipper) : (fuel : Nat) → Skipper :=
  match kind with
  | array => Json.skipItems value
  | object => skipMembers value

/-- Passes over what stands behind the opening character. -/
def skipInside (kind : Container) (value : Skipper) : Skipper := fun cs =>
  match skipBlanks cs with
  | [] => .error (.next kind.unclosed [])
  | c :: rest => if c = kind.closing then .ok rest else kind.skipItems value (cs.length + 1) cs

lemma skipItems_eq (kind : Container) (value : Skipper) (fuel : Nat) (cs : List Char) :
    kind.skipItems value fuel cs =
      skipSequence kind.closing kind.unclosed kind.unseparated (kind.skipItem value) fuel cs := by
  cases kind with
  | array => exact Json.skipItems_eq value fuel cs
  | object => exact skipMembers_eq value fuel cs

end Container

/-! ### What is passed over is derived -/

section

variable {value : Skipper}

lemma of_readColon {cs rest : List Char} (h : readColon cs = .ok rest) :
    ∃ blanks, cs = blanks ++ ':' :: rest ∧ IsBlanks blanks := by
  unfold readColon at h
  split at h
  · cases h
  · next c tail hskip =>
    split at h
    · next hc =>
      cases h
      obtain ⟨blanks, rfl, hblanks⟩ := exists_blanks_of_cons hskip
      exact ⟨blanks, by rw [hc], hblanks⟩
    · cases h

/-- What is taken as an item of an array is a value with blanks before it. -/
lemma Derives.exists_value {cs : List Char} (h : Derives (.item .array) cs) :
    ∃ blanks payload, cs = blanks ++ payload ∧ IsBlanks blanks ∧ Derives .value payload := by
  cases h with
  | element hblanks hvalue => exact ⟨_, _, rfl, hblanks, hvalue⟩

lemma passes_skipMember (hvalue : Passes (.item .array) value) :
    Passes (.item .object) (skipMember value) := by
  intro cs rest h
  unfold skipMember at h
  split at h
  · cases h
  · next c tail hskip =>
    obtain ⟨blanks, rfl, hblanks⟩ := exists_blanks_of_cons hskip
    split at h
    · cases h
    · next hquote =>
      obtain ⟨behind, hkey, hbehind⟩ := bind_eq_ok.1 h
      obtain ⟨others, hcolon, hothers⟩ := bind_eq_ok.1 hbehind
      obtain ⟨key, rfl, hquoted⟩ := of_skipString hkey
      obtain ⟨between, rfl, hbetween⟩ := of_readColon hcolon
      obtain ⟨used, rfl, hused⟩ := hvalue _ _ hothers
      obtain ⟨after, payload, rfl, hafter, hpayload⟩ := hused.exists_value
      have hc : c = '"' := Decidable.not_not.1 hquote
      refine ⟨_, ?_, .member hblanks hquoted hbetween hafter hpayload⟩
      simp [hc]

lemma passes_skipItem (hvalue : Passes (.item .array) value) (kind : Container) :
    Passes (.item kind) (kind.skipItem value) := by
  cases kind with
  | array => exact hvalue
  | object => exact passes_skipMember hvalue

lemma passes_skipItems (hvalue : Passes (.item .array) value) (kind : Container) (fuel : Nat) :
    Passes (.items kind) (kind.skipItems value fuel) := by
  intro cs rest h
  rw [kind.skipItems_eq] at h
  induction fuel generalizing cs with
  | zero => cases h
  | succ fuel ih =>
    rw [skipSequence] at h
    obtain ⟨behind, hfirst, hbehind⟩ := bind_eq_ok.1 h
    obtain ⟨used, rfl, hused⟩ := passes_skipItem hvalue kind _ _ hfirst
    split at hbehind
    · cases hbehind
    · next c tail hskip =>
      obtain ⟨blanks, rfl, hblanks⟩ := exists_blanks_of_cons hskip
      split_ifs at hbehind with hcomma hclose
      · obtain ⟨others, rfl, hothers⟩ := ih _ hbehind
        exact ⟨_, by simp [hcomma], .more hused hblanks hothers⟩
      · cases hbehind
        exact ⟨_, by simp [hclose], .last hused hblanks⟩

lemma of_skipInside (hvalue : Passes (.item .array) value) {kind : Container} {cs rest : List Char}
    (h : kind.skipInside value cs = .ok rest) :
    ∃ used, cs = used ++ rest ∧ Derives .value (kind.opening :: used) := by
  unfold Container.skipInside at h
  split at h
  · cases h
  · next c tail hskip =>
    split at h
    · next hc =>
      cases h
      obtain ⟨blanks, rfl, hblanks⟩ := exists_blanks_of_cons hskip
      exact ⟨_, by simp [hc], .empty hblanks⟩
    · obtain ⟨used, rfl, hused⟩ := passes_skipItems hvalue kind _ _ _ h
      exact ⟨used, rfl, .container hused⟩

end

/-- Passes over a value of which the first character has been seen. -/
def skipAfter (fuel : Nat) (c : Char) (rest : List Char) : Except Fault (List Char) :=
  if c = 'n' then readWord ['u', 'l', 'l'] rest
  else if c = 't' then readWord ['r', 'u', 'e'] rest
  else if c = 'f' then readWord ['a', 'l', 's', 'e'] rest
  else if c = '-' then skipNumber rest
  else if c.isDigit then skipNumber (c :: rest)
  else if c = '"' then skipString rest
  else if c = '[' then
    match fuel with
    | 0 => .error (.next .tooDeep (c :: rest))
    | fuel + 1 => Container.array.skipInside (skipNested fuel) rest
  else if c = '\x7b' then
    match fuel with
    | 0 => .error (.next .tooDeep (c :: rest))
    | fuel + 1 => Container.object.skipInside (skipNested fuel) rest
  else .error (.next .expectedValue (c :: rest))

lemma skipNested_eq (fuel : Nat) (cs : List Char) : skipNested fuel cs =
    match skipBlanks cs with
    | [] => .error (.next .endInValue [])
    | c :: rest => skipAfter fuel c rest := by
  rw [skipNested]
  rfl

lemma of_skipAfter {fuel : Nat}
    (hinner : ∀ inner, fuel = inner + 1 → Passes (.item .array) (skipNested inner))
    {c : Char} {cs rest : List Char} (h : skipAfter fuel c cs = .ok rest) :
    ∃ used, cs = used ++ rest ∧ Derives .value (c :: used) := by
  unfold skipAfter at h
  split_ifs at h with hn ht hf hminus hdigit hquote hbracket hbrace
  · exact ⟨_, eq_of_readWord h, hn ▸ .null⟩
  · exact ⟨_, eq_of_readWord h, ht ▸ .true⟩
  · exact ⟨_, eq_of_readWord h, hf ▸ .false⟩
  · obtain ⟨used, rfl, hused⟩ := of_skipNumber h
    exact ⟨used, rfl, hminus ▸ .negative hused⟩
  · obtain ⟨used, hcs, hused⟩ := of_skipNumber h
    obtain ⟨d, ds, rfl, -⟩ := hused.exists_eq_cons
    cases hcs
    exact ⟨ds, rfl, .number hused⟩
  · obtain ⟨used, rfl, hused⟩ := of_skipString h
    exact ⟨used, rfl, hquote ▸ .string hused⟩
  · cases fuel with
    | zero => cases h
    | succ inner => exact hbracket ▸ of_skipInside (hinner inner rfl) h
  · cases fuel with
    | zero => cases h
    | succ inner => exact hbrace ▸ of_skipInside (hinner inner rfl) h

lemma passes_of_inner {fuel : Nat}
    (hinner : ∀ inner, fuel = inner + 1 → Passes (.item .array) (skipNested inner)) :
    Passes (.item .array) (skipNested fuel) := by
  intro cs rest h
  rw [skipNested_eq] at h
  split at h
  · cases h
  · next c tail hskip =>
    obtain ⟨blanks, rfl, hblanks⟩ := exists_blanks_of_cons hskip
    obtain ⟨used, rfl, hused⟩ := of_skipAfter hinner h
    exact ⟨blanks ++ c :: used, by simp, .element hblanks hused⟩

/-- What is passed over is a value of the grammar with blanks before it, however deep it may nest. -/
theorem passes_skipNested (fuel : Nat) : Passes (.item .array) (skipNested fuel) := by
  induction fuel with
  | zero => exact passes_of_inner nofun
  | succ fuel ih =>
    apply passes_of_inner
    rintro inner ⟨⟩
    exact ih

/-! ### What is derived is passed over -/

lemma skipNested_first {c : Char} (hc : IsFirst c) (fuel : Nat) (rest : List Char) :
    skipNested fuel (c :: rest) = skipAfter fuel c rest := by
  rw [skipNested_eq, skipBlanks_cons hc.isBlank]

lemma skipNested_blanks {blanks : List Char} (h : IsBlanks blanks) (fuel : Nat) (cs : List Char) :
    skipNested fuel (blanks ++ cs) = skipNested fuel cs := by
  rw [skipNested_eq, skipNested_eq, skipBlanks_append h]

lemma skipNested_digit {d : Char} (hd : d.isDigit = true) (fuel : Nat) (rest : List Char) :
    skipNested fuel (d :: rest) = skipNumber (d :: rest) := by
  have hne {c : Char} (hc : c.isDigit = false) : d ≠ c := by
    rintro rfl
    rw [hd] at hc
    cases hc
  rw [skipNested_first (.inr hd)]
  unfold skipAfter
  rw [if_neg (hne rfl), if_neg (hne rfl), if_neg (hne rfl), if_neg (hne rfl), if_pos hd]

lemma skipNested_opening (kind : Container) (fuel : Nat) (rest : List Char) :
    skipNested (fuel + 1) (kind.opening :: rest) = kind.skipInside (skipNested fuel) rest := by
  rw [skipNested_first (isFirst_opening kind)]
  cases kind <;> rfl

lemma readColon_append {blanks : List Char} (h : IsBlanks blanks) (rest : List Char) :
    readColon (blanks ++ ':' :: rest) = .ok rest := by
  rw [readColon, skipBlanks_append h]
  rfl

/-- Before its first item, a container does not end. -/
lemma Derives.skipBlanks_items {kind : Container} {cs : List Char} (h : Derives (.items kind) cs)
    (more : List Char) : ∃ c rest, skipBlanks (cs ++ more) = c :: rest ∧ c ≠ kind.closing := by
  have hitem {cs : List Char} (h : Derives (.item kind) cs) (more : List Char) :
      ∃ c rest, skipBlanks (cs ++ more) = c :: rest ∧ c ≠ kind.closing := by
    cases h with
    | element hblanks hvalue =>
      obtain ⟨c, rest, rfl, hc⟩ := hvalue.exists_eq_cons
      rw [List.append_assoc, skipBlanks_append hblanks]
      exact ⟨c, _, skipBlanks_cons hc.isBlank _, hc.ne_closing _⟩
    | member hblanks _ _ _ _ =>
      rw [List.append_assoc, skipBlanks_append hblanks]
      exact ⟨'"', _, rfl, by decide⟩
  cases h with
  | last hfirst _ =>
    rw [List.append_assoc]
    exact hitem hfirst _
  | more hfirst _ _ =>
    rw [List.append_assoc]
    exact hitem hfirst _

lemma skipSequence_append {kind : Container} {unclosed unseparated : GrammarFault} {item : Skipper}
    {fuel : Nat} {cs blanks rest : List Char} {c : Char}
    (hitem : item (cs ++ (blanks ++ c :: rest)) = .ok (blanks ++ c :: rest))
    (hblanks : IsBlanks blanks) (hc : isBlank c = false) :
    skipSequence kind.closing unclosed unseparated item (fuel + 1) (cs ++ (blanks ++ c :: rest)) =
      if c = ',' then skipSequence kind.closing unclosed unseparated item fuel rest
      else if c = kind.closing then .ok rest
      else .error (.next unseparated (c :: rest)) := by
  rw [skipSequence, hitem]
  simp only [bind, Except.bind]
  rw [skipBlanks_append hblanks, skipBlanks_cons hc]

/-- The reader of a part. The items of a container are passed over in so many steps. -/
def skipPart (fuel steps : Nat) : Part → Skipper
  | .value => skipNested fuel
  | .item kind => kind.skipItem (skipNested fuel)
  | .items kind => kind.skipItems (skipNested fuel) steps

/-- A text of a part is passed over as that part, whatever stands behind it, if it may nest as deep as
it is long. -/
theorem skipPart_append {part : Part} {cs : List Char} (h : Derives part cs) {fuel steps : Nat}
    {more : List Char} (hfuel : cs.length ≤ fuel) (hsteps : cs.length ≤ steps) (hends : Ends more) :
    skipPart fuel steps part (cs ++ more) = .ok more := by
  induction h generalizing fuel steps more with
  | null | true | false =>
    change skipNested _ _ = _
    rw [List.cons_append, skipNested_first (.inl (by decide))]
    exact readWord_append _ more
  | number hnumber =>
    change skipNested _ _ = _
    obtain ⟨d, ds, rfl, hd⟩ := hnumber.exists_eq_cons
    rw [List.cons_append, skipNested_digit hd]
    exact skipNumber_append hnumber hends
  | negative hnumber =>
    change skipNested _ _ = _
    rw [List.cons_append, skipNested_first (.inl (by decide))]
    exact skipNumber_append hnumber hends
  | string hquoted =>
    change skipNested _ _ = _
    rw [List.cons_append, skipNested_first (.inl (by decide))]
    exact skipString_append hquoted more
  | @empty kind blanks hblanks =>
    change skipNested _ _ = _
    obtain ⟨fuel, rfl⟩ := Nat.exists_eq_add_of_le' (Nat.le_of_add_left_le hfuel)
    rw [List.cons_append, skipNested_opening, Container.skipInside, List.append_assoc,
      skipBlanks_append hblanks, List.singleton_append, skipBlanks_cons (by cases kind <;> rfl)]
    exact if_pos rfl
  | @container kind cs hitems ih =>
    change skipNested _ _ = _
    obtain ⟨fuel, rfl⟩ := Nat.exists_eq_add_of_le' (Nat.le_of_add_left_le hfuel)
    obtain ⟨c, rest, hskip, hc⟩ := hitems.skipBlanks_items more
    rw [List.cons_append, skipNested_opening, Container.skipInside, hskip]
    dsimp only
    rw [if_neg hc]
    refine ih (Nat.le_of_succ_le_succ hfuel) ?_ hends
    rw [List.length_append]
    omega
  | @element blanks cs hblanks _ ih =>
    change skipNested _ _ = _
    rw [List.length_append] at hfuel hsteps
    rw [List.append_assoc, skipNested_blanks hblanks]
    exact ih (by omega) (show cs.length ≤ steps by omega) hends
  | @member blanks key between after cs hblanks hkey hbetween hafter _ ih =>
    change skipMember _ _ = _
    simp only [List.length_append, List.length_cons] at hfuel hsteps
    have hshape : blanks ++ '"' :: (key ++ (between ++ ':' :: (after ++ cs))) ++ more =
        blanks ++ '"' :: (key ++ (between ++ ':' :: (after ++ (cs ++ more)))) := by simp
    rw [hshape, skipMember, skipBlanks_append hblanks, skipBlanks_cons rfl]
    dsimp only
    rw [if_neg (by decide), skipString_append hkey]
    simp only [bind, Except.bind, readColon_append hbetween, skipNested_blanks hafter]
    exact ih (by omega) (show cs.length ≤ steps by omega) hends
  | @last kind cs blanks _ hblanks ih =>
    change kind.skipItems _ _ _ = _
    simp only [List.length_append, List.length_cons, List.length_nil] at hfuel hsteps
    have hitem : kind.skipItem (skipNested fuel) (cs ++ (blanks ++ kind.closing :: more)) = _ :=
      ih (by omega) (show cs.length ≤ steps by omega) (.blanks_append hblanks (ends_closing kind more))
    obtain ⟨steps, rfl⟩ := Nat.exists_eq_add_of_le' (show 1 ≤ steps by omega)
    rw [kind.skipItems_eq, List.append_assoc, List.append_assoc, List.singleton_append,
      skipSequence_append hitem hblanks (by cases kind <;> rfl), if_neg (by cases kind <;> decide)]
    exact if_pos rfl
  | @more kind cs blanks others _ hblanks _ ih ih' =>
    change kind.skipItems _ _ _ = _
    simp only [List.length_append, List.length_cons] at hfuel hsteps
    have hitem : kind.skipItem (skipNested fuel) (cs ++ (blanks ++ ',' :: (others ++ more))) = _ :=
      ih (by omega) (show cs.length ≤ steps by omega)
        (.blanks_append hblanks (ends_separator (.inl rfl) _))
    obtain ⟨steps, rfl⟩ := Nat.exists_eq_add_of_le' (show 1 ≤ steps by omega)
    rw [kind.skipItems_eq, List.append_assoc, List.append_assoc, List.cons_append,
      skipSequence_append hitem hblanks rfl, if_pos rfl, ← kind.skipItems_eq]
    exact ih' (by omega) (by omega) hends

/-! ### Values as they are written -/

/-- What is read as it is written is a value of the grammar, with nothing but blanks before it. -/
theorem of_readVerbatim {cs payload rest : List Char} (h : readVerbatim cs = .ok (payload, rest)) :
    ∃ blanks, cs = blanks ++ (payload ++ rest) ∧ IsBlanks blanks ∧ Derives .value payload := by
  rw [readVerbatim] at h
  obtain ⟨behind, hskip, hresult⟩ := bind_eq_ok.1 h
  cases hresult
  obtain ⟨used, hcs, hused⟩ := passes_skipNested _ _ _ hskip
  obtain ⟨inner, value, rfl, hinner, hvalue⟩ := hused.exists_value
  obtain ⟨blanks, hfront, hblanks⟩ := exists_blanks cs
  -- The blanks before the value are gone already.
  have hvalueOnly : skipBlanks cs = value ++ rest := by
    obtain ⟨c, tail, rfl, hc⟩ := hvalue.exists_eq_cons
    have h := skipBlanks_skipBlanks cs
    rw [hcs, List.append_assoc, skipBlanks_append hinner, List.cons_append,
      skipBlanks_cons hc.isBlank] at h
    rw [hcs, List.append_assoc]
    exact h.symm
  have htake : (skipBlanks cs).take ((skipBlanks cs).length - rest.length) = value := by
    rw [hvalueOnly]
    simp
  rw [htake]
  exact ⟨blanks, hvalueOnly ▸ hfront, hblanks, hvalue⟩

/-- A value of the grammar is read as it is written, without the blanks before it. -/
theorem readVerbatim_append {blanks payload more : List Char} (hblanks : IsBlanks blanks)
    (hvalue : Derives .value payload) (hends : Ends more) :
    readVerbatim (blanks ++ (payload ++ more)) = .ok (payload, more) := by
  have hfront : skipBlanks (payload ++ more) = payload ++ more := by
    obtain ⟨c, tail, rfl, hc⟩ := hvalue.exists_eq_cons
    exact skipBlanks_cons hc.isBlank _
  have hskip : skipValue (payload ++ more) = .ok more := by
    have hlength : payload.length ≤ (payload ++ more).length := by simp
    exact skipPart_append hvalue hlength hlength hends
  rw [readVerbatim, skipBlanks_append hblanks, hfront]
  simp [hskip, bind, Except.bind]

/-- Is the text one value, without blanks around it? -/
def IsValueText (payload : List Char) : Prop :=
  ∀ more, Ends more → readVerbatim (payload ++ more) = .ok (payload, more)

lemma Derives.isValueText {payload : List Char} (h : Derives .value payload) :
    IsValueText payload := by
  intro more hends
  exact readVerbatim_append (show IsBlanks [] from nofun) h hends

/-- What is read as it is written is a value wherever it stands. -/
theorem isValueText_of_readVerbatim {cs payload rest : List Char}
    (h : readVerbatim cs = .ok (payload, rest)) : IsValueText payload := by
  obtain ⟨-, -, -, hvalue⟩ := of_readVerbatim h
  exact hvalue.isValueText

lemma IsJson.isValueText {text payload : List Char} (h : IsJson text payload) :
    IsValueText payload := by
  obtain ⟨-, -, -, -, -, hvalue⟩ := h
  exact hvalue.isValueText

lemma readEnd_eq_ok {cs : List Char} : readEnd cs = .ok () ↔ IsBlanks cs := by
  obtain ⟨blanks, hcs, hblanks⟩ := exists_blanks cs
  unfold readEnd
  constructor
  · intro h
    split at h
    · next hskip =>
      rw [hskip, List.append_nil] at hcs
      exact hcs ▸ hblanks
    · cases h
  · intro h
    have hskip : skipBlanks cs = [] := by simpa [skipBlanks] using skipBlanks_append h []
    rw [hskip]

/-- A text is read as a value, as it is written, just when it is one with blanks around it. -/
theorem readText_readVerbatim {text : String} {payload : List Char} :
    readText readVerbatim text = .ok payload ↔ IsJson text.toList payload := by
  rw [readText_eq_ok]
  constructor
  · rintro ⟨after, hread, hend⟩
    obtain ⟨before, htext, hbefore, hvalue⟩ := of_readVerbatim hread
    exact ⟨before, after, htext, hbefore, readEnd_eq_ok.1 hend, hvalue⟩
  · rintro ⟨before, after, htext, hbefore, hafter, hvalue⟩
    refine ⟨after, ?_, readEnd_eq_ok.2 hafter⟩
    rw [htext]
    exact readVerbatim_append hbefore hvalue (ends_of_isBlanks hafter)

end EventGateway.Json

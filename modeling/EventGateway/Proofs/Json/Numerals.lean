import EventGateway.Proofs.Json.Skipping

/-!
# Whole numbers read back

A whole number of sixty-four bits is read from its decimal numeral, and from nothing else. Every number
that is read is one of the grammar, whatever becomes of its fraction and exponent.
-/

namespace EventGateway.Json

/-! ### Numerals -/

/-- The number that digits behind a number make of it. -/
def appendDigits (n : Nat) (ds : List Char) : Nat := Nat.ofDigitChars 10 ds n

lemma appendDigits_cons (n : Nat) (d : Char) (ds : List Char) :
    appendDigits n (d :: ds) = appendDigits (n * 10 + Text.digitValue d) ds := by
  rw [appendDigits, Nat.ofDigitChars_cons, Nat.mul_comm]
  rfl

lemma le_appendDigits (n : Nat) (ds : List Char) : n ≤ appendDigits n ds := by
  induction ds generalizing n with
  | nil => exact Nat.le_of_eq Nat.ofDigitChars_nil.symm
  | cons d ds ih =>
    rw [appendDigits_cons]
    exact Nat.le_trans (by omega) (ih _)

lemma digitValue_lt {d : Char} (hd : d.isDigit = true) : Text.digitValue d < 10 := by
  simp only [Char.isDigit, Bool.and_eq_true, decide_eq_true_eq] at hd
  have hhigh : d.toNat ≤ 57 := hd.2
  have hzero : Text.digitValue d = d.toNat - 48 := rfl
  omega

lemma digitChar_digitValue {d : Char} (hd : d.isDigit = true) :
    Nat.digitChar (Text.digitValue d) = d := by
  have hall : ∀ k : Fin 58, (Char.ofNat k).isDigit = true →
      Nat.digitChar (Text.digitValue (Char.ofNat k)) = Char.ofNat k := by decide
  simp only [Char.isDigit, Bool.and_eq_true, decide_eq_true_eq] at hd
  have hhigh : d.toNat ≤ 57 := hd.2
  have hd' := hall ⟨d.toNat, by omega⟩
  rw [Char.ofNat_toNat] at hd'
  exact hd' (by simpa [Char.isDigit] using hd)

/-- Digits behind a numeral make the numeral of what they make of its number. -/
lemma decimal_append {n : Nat} (hn : 0 < n) {ds : List Char} (hds : IsDigits ds) :
    Text.decimal n ++ ds = Text.decimal (appendDigits n ds) := by
  induction ds generalizing n with
  | nil => rw [List.append_nil, appendDigits, Nat.ofDigitChars_nil]
  | cons d ds ih =>
    have hd := hds d (List.mem_cons_self ..)
    have hdigit := Nat.toDigits_append_toDigits (by decide : 1 < 10) hn (digitValue_lt hd)
    rw [Nat.toDigits_of_lt_base (digitValue_lt hd), digitChar_digitValue hd] at hdigit
    rw [appendDigits_cons, ← ih (by omega) fun x hx => hds x (List.mem_cons_of_mem _ hx), Text.decimal,
      Text.decimal, Nat.mul_comm, ← hdigit, List.append_assoc, List.singleton_append]

/-- Digits without leading zeros are the numeral of their number. -/
lemma decimal_of_digits {d : Char} {ds : List Char} (hd : d.isDigit = true) (hds : IsDigits ds)
    (hzero : d = '0' → ds = []) : d :: ds = Text.decimal (appendDigits (Text.digitValue d) ds) := by
  have hfirst : Text.decimal (Text.digitValue d) = [d] := by
    rw [Text.decimal, Nat.toDigits_of_lt_base (digitValue_lt hd), digitChar_digitValue hd]
  by_cases hd0 : d = '0'
  · rw [hzero hd0, appendDigits, Nat.ofDigitChars_nil, hfirst]
  · have hpos : 0 < Text.digitValue d := by
      rw [Nat.pos_iff_ne_zero]
      intro hvalue
      have hchar := digitChar_digitValue hd
      rw [hvalue] at hchar
      exact hd0 hchar.symm
    rw [← decimal_append hpos hds, hfirst, List.singleton_append]

lemma isDigit_of_mem_decimal {n : Nat} {c : Char} (h : c ∈ Text.decimal n) : c.isDigit = true :=
  Nat.isDigit_of_mem_toDigits (by decide) (by decide) h

/-- A numeral that was written is read back. -/
lemma unsigned?_decimal {limit n : Nat} (hn : n < limit) :
    Text.unsigned? limit (Text.decimal n) = some n := by
  have hdigits : ∀ c ∈ Text.decimal n, c.isDigit = true := fun _ => isDigit_of_mem_decimal
  have hvalue : Text.ofDigits (Text.decimal n) = n := Nat.ofDigitChars_ten_toDigits
  have hbelow : Text.digitsBelow? limit (Text.decimal n) = some n := by
    rw [Text.digitsBelow?, hvalue, if_neg, if_pos hn]
    have hne : Text.decimal n ≠ [] := Nat.toDigits_ne_nil
    simpa [hne] using hdigits
  rw [← hbelow]
  unfold Text.unsigned?
  split
  · next digits heq =>
    have hplus := hdigits '+' (heq ▸ List.mem_cons_self ..)
    cases hplus
  · rfl

lemma exists_decimal_eq_cons (n : Nat) : ∃ d ds, Text.decimal n = d :: ds :=
  List.exists_cons_of_ne_nil Nat.toDigits_ne_nil

/-- A numeral of more than one digit has no leading zero. -/
lemma eq_nil_of_decimal_eq_zero_cons {n : Nat} {ds : List Char} (h : Text.decimal n = '0' :: ds) :
    ds = [] := by
  induction n using Nat.strongRecOn generalizing ds with
  | ind n ih =>
    by_cases hn : n < 10
    · rw [Text.decimal, Nat.toDigits_of_lt_base hn] at h
      exact (List.cons.inj h).2.symm
    · have hshape : Text.decimal n = Text.decimal (n / 10) ++ [Nat.digitChar (n % 10)] :=
        Nat.toDigits_of_base_le (by decide) (by omega)
      obtain ⟨d, es, hfirst⟩ := exists_decimal_eq_cons (n / 10)
      rw [hshape, hfirst] at h
      obtain ⟨rfl, -⟩ := List.cons.inj h
      -- the number before the last digit would be zero
      have hes := ih (n / 10) (by omega) hfirst
      have hvalue : Nat.ofDigitChars 10 (Text.decimal (n / 10)) 0 = n / 10 :=
        Nat.ofDigitChars_ten_toDigits
      rw [hfirst, hes] at hvalue
      have hzero : Nat.ofDigitChars 10 ['0'] 0 = 0 := by decide
      omega

/-- The digits of a numeral make its number. -/
lemma appendDigits_of_decimal {n : Nat} {d : Char} {ds : List Char} (h : Text.decimal n = d :: ds) :
    appendDigits (Text.digitValue d) ds = n := by
  have hvalue : Nat.ofDigitChars 10 (Text.decimal n) 0 = n := Nat.ofDigitChars_ten_toDigits
  rw [h] at hvalue
  have hcons := appendDigits_cons 0 d ds
  rw [Nat.zero_mul, Nat.zero_add] at hcons
  exact hcons.symm.trans hvalue

/-! ### Reading digits -/

lemma readDigits_append {n : Nat} {ds rest : List Char} (hds : IsDigits ds)
    (hrange : appendDigits n ds < Nat.pow 2 64) (hrest : startsWithDigit rest = false) :
    readDigits n (ds ++ rest) = (appendDigits n ds, ds.length, rest) := by
  induction ds generalizing n with
  | nil =>
    cases rest with
    | nil => rfl
    | cons c rest =>
      have hc : c.isDigit = false := hrest
      simp [readDigits, hc, appendDigits]
  | cons d ds ih =>
    have hd := hds d (List.mem_cons_self ..)
    rw [appendDigits_cons] at hrange ⊢
    have hbelow := Nat.lt_of_le_of_lt (le_appendDigits _ ds) hrange
    rw [List.cons_append, readDigits, if_pos ⟨hd, hbelow⟩,
      ih (fun x hx => hds x (List.mem_cons_of_mem _ hx)) hrange]
    rfl

/-- What has been read as digits is digits. -/
lemma of_readDigits {n m count : Nat} {cs rest : List Char}
    (h : readDigits n cs = (m, count, rest)) :
    ∃ ds, cs = ds ++ rest ∧ IsDigits ds ∧ m = appendDigits n ds ∧ count = ds.length := by
  induction cs generalizing n m count with
  | nil =>
    cases h
    exact ⟨[], rfl, nofun, rfl, rfl⟩
  | cons c cs ih =>
    simp only [readDigits] at h
    split at h
    · next hc =>
      cases hread : readDigits (n * 10 + Text.digitValue c) cs with
      | mk m' others =>
        obtain ⟨count', rest'⟩ := others
        rw [hread] at h
        cases h
        obtain ⟨ds, rfl, hds, rfl, rfl⟩ := ih hread
        refine ⟨c :: ds, rfl, ?_, (appendDigits_cons n c ds).symm, rfl⟩
        intro x hx
        rcases List.mem_cons.1 hx with rfl | hx
        · exact hc.1
        · exact hds x hx
    · cases h
      exact ⟨[], rfl, nofun, rfl, rfl⟩

lemma readDigits_fst_lt {n : Nat} (hn : n < Nat.pow 2 64) (cs : List Char) :
    (readDigits n cs).1 < Nat.pow 2 64 := by
  induction cs generalizing n with
  | nil => exact hn
  | cons c cs ih =>
    simp only [readDigits]
    split
    · next hc => exact ih hc.2
    · exact hn

/-! ### Whole numbers -/

/-- A whole number is read after its sign. -/
theorem readNumber_decimal {n : Nat} (hn : n < Nat.pow 2 64) (positive : Bool)
    (hpositive : positive = true ∨ (n ≠ 0 ∧ n ≤ Nat.pow 2 63)) {rest : List Char} (hends : Ends rest) :
    readNumber positive (Text.decimal n ++ rest) =
      .ok (if positive then .natural (UInt64.ofNat n) else .negative (UInt64.ofNat n), rest) := by
  obtain ⟨d, ds, hdecimal⟩ := exists_decimal_eq_cons n
  have hdigit {c : Char} (hc : c ∈ d :: ds) : c.isDigit = true :=
    isDigit_of_mem_decimal (hdecimal ▸ hc)
  have hd := hdigit (List.mem_cons_self ..)
  have hds : IsDigits ds := fun c hc => hdigit (List.mem_cons_of_mem _ hc)
  have hvalue := appendDigits_of_decimal hdecimal
  have hstart := startsWithDigit_append hds hends.digit
  have hzero : ¬ (d = '0' ∧ startsWithDigit (ds ++ rest) = true) := by
    rintro ⟨rfl, hmore⟩
    rw [hstart, eq_nil_of_decimal_eq_zero_cons hdecimal] at hmore
    cases hmore
  have hread := readDigits_append hds (hvalue ▸ hn) hends.digit
  have hspan := spanDigits_append (show IsDigits [] from nofun) hends.digit
  rw [List.nil_append] at hspan
  rw [hdecimal, List.cons_append, readNumber, if_neg (by simp [hd]), if_neg hzero, hread]
  simp only [hspan]
  split
  · exact absurd rfl (hends.point _)
  · rw [hends.exponent, hvalue]
    rcases hpositive with rfl | ⟨hne, hle⟩
    · rfl
    · cases positive with
      | true => rfl
      | false =>
        rw [if_neg (by decide), if_neg (by decide), if_neg (by decide),
          if_neg (not_or.2 ⟨hne, Nat.not_lt.2 hle⟩)]
        rfl

/-! ### Every number that is read -/

lemma spanDigits_snd_append {ds : List Char} (hds : IsDigits ds) (rest : List Char) :
    (spanDigits (ds ++ rest)).2 = (spanDigits rest).2 :=
  List.dropWhile_append_of_pos hds

lemma spanDigits_snd_of_not_startsWithDigit {cs : List Char} (h : startsWithDigit cs = false) :
    (spanDigits cs).2 = cs := by
  have hspan := spanDigits_append (show IsDigits [] from nofun) h
  rw [List.nil_append] at hspan
  rw [hspan]

lemma of_finishReal {positive : Bool} {significand : Nat} {exponent : Int} {cs rest : List Char}
    {x : Number} (h : finishReal positive significand exponent cs = .ok (x, rest)) :
    rest = cs ∧ ∃ y, x = .real y := by
  unfold finishReal at h
  split at h
  · cases h
    exact ⟨rfl, _, rfl⟩
  · cases h

/-- All digits of an exponent are read or passed over. -/
lemma of_readExponentDigits {n : Nat} {cs rest : List Char} {r : Option Nat}
    (h : readExponentDigits n cs = (r, rest)) :
    (spanDigits cs).2 = if r.isSome then rest else (spanDigits rest).2 := by
  induction cs generalizing n with
  | nil =>
    cases h
    rfl
  | cons c cs ih =>
    simp only [readExponentDigits] at h
    by_cases hc : c.isDigit = true
    · have hspan := spanDigits_snd_append (show IsDigits [c] by simpa [IsDigits] using hc) cs
      rw [List.singleton_append] at hspan
      rw [hspan]
      rw [if_pos hc] at h
      split at h
      · exact ih h
      · cases h
        rfl
    · rw [if_neg hc] at h
      cases h
      exact spanDigits_snd_of_not_startsWithDigit (by simpa [startsWithDigit] using hc)

/-- Reads an exponent after its sign. -/
def readUnsignedExponent (positive up : Bool) (significand : Nat) (start : Int) (cs : List Char) :
    Except Fault (Number × List Char) :=
  match cs with
  | [] => .error (.here .endInValue [])
  | c :: rest =>
    if c.isDigit then
      match readExponentDigits (Text.digitValue c) rest with
      | (some n, rest) =>
        finishReal positive significand (if up then start + n else start - n) rest
      | (none, rest) =>
        if up ∧ significand ≠ 0 then .error (.here .numberOutOfRange rest)
        else .ok (.real (.zero !positive), (spanDigits rest).2)
    else .error (.after .invalidNumber cs)

lemma readExponent_eq (positive : Bool) (significand : Nat) (start : Int) (cs : List Char) :
    ∃ up, readExponent positive significand start cs =
      readUnsignedExponent positive up significand start (dropSign cs) := by
  by_cases hplus : ∃ rest, cs = '+' :: rest
  · obtain ⟨rest, rfl⟩ := hplus
    exact ⟨true, rfl⟩
  · by_cases hminus : ∃ rest, cs = '-' :: rest
    · obtain ⟨rest, rfl⟩ := hminus
      exact ⟨false, rfl⟩
    · refine ⟨true, ?_⟩
      have hsign : dropSign cs = cs := by
        unfold dropSign
        split
        · exact absurd ⟨_, rfl⟩ hplus
        · exact absurd ⟨_, rfl⟩ hminus
        · rfl
      rw [hsign, readExponent.eq_def]
      split
      next up tail heq =>
        split at heq
        · exact absurd ⟨_, rfl⟩ hplus
        · exact absurd ⟨_, rfl⟩ hminus
        · cases heq
          rfl

lemma skipExponent_of_readExponent {positive : Bool} {significand : Nat} {start : Int}
    {cs rest : List Char} {x : Number}
    (h : readExponent positive significand start cs = .ok (x, rest)) :
    skipExponent cs = .ok rest ∧ ∃ y, x = .real y := by
  obtain ⟨up, heq⟩ := readExponent_eq positive significand start cs
  rw [heq] at h
  rw [skipExponent_eq]
  unfold readUnsignedExponent at h
  split at h
  · cases h
  · next c tail hcs =>
    have hdigits : skipSomeDigits (c :: tail) =
        if c.isDigit then .ok (spanDigits tail).2 else .error (.after .invalidNumber (c :: tail)) := rfl
    rw [hcs, hdigits]
    split at h
    · next hc =>
      rw [if_pos hc]
      split at h
      · next n behind hdigits =>
        obtain ⟨rfl, hreal⟩ := of_finishReal h
        exact ⟨congrArg Except.ok (of_readExponentDigits hdigits), hreal⟩
      · next behind hdigits =>
        split at h
        · cases h
        · cases h
          exact ⟨congrArg Except.ok (of_readExponentDigits hdigits), _, rfl⟩
    · cases h

lemma skipOptionalExponent_of_read {positive : Bool} {significand : Nat} {start : Int}
    {cs rest : List Char} {x : Number}
    (h : readOptionalExponent positive significand start cs = .ok (x, rest)) :
    skipOptionalExponent cs = .ok rest ∧ ∃ y, x = .real y := by
  unfold readOptionalExponent at h
  unfold skipOptionalExponent
  split at h
  · next hmark =>
    rw [if_pos hmark]
    exact skipExponent_of_readExponent h
  · next hmark =>
    rw [if_neg hmark]
    obtain ⟨rfl, hreal⟩ := of_finishReal h
    exact ⟨rfl, hreal⟩

lemma skipFraction_point (cs : List Char) : skipFraction ('.' :: cs) =
    if (spanDigits cs).1.isEmpty then .error (.next .invalidNumber (spanDigits cs).2)
    else skipOptionalExponent (spanDigits cs).2 := rfl

lemma spanDigits_fst_of_startsWithDigit {cs : List Char} (h : startsWithDigit cs = true) :
    (spanDigits cs).1.isEmpty = false := by
  cases cs with
  | nil => cases h
  | cons c cs =>
    have hc : c.isDigit = true := h
    simp [spanDigits, hc]

lemma skipFraction_of_readFraction {positive : Bool} {significand : Nat} {start : Int}
    {cs rest : List Char} {x : Number}
    (h : readFraction positive significand start cs = .ok (x, rest)) :
    skipFraction ('.' :: cs) = .ok rest ∧ ∃ y, x = .real y := by
  unfold readFraction at h
  cases hread : readDigits significand cs with
  | mk m others =>
    obtain ⟨count, behind⟩ := others
    rw [hread] at h
    obtain ⟨ds, rfl, hds, -, rfl⟩ := of_readDigits hread
    dsimp only at h
    rw [skipFraction_point]
    by_cases hmore : startsWithDigit behind = true
    · rw [if_pos hmore] at h
      obtain ⟨hskip, hreal⟩ := skipOptionalExponent_of_read h
      have hdigit : startsWithDigit (ds ++ behind) = true := by
        cases ds with
        | nil => exact hmore
        | cons d ds => exact hds d (List.mem_cons_self ..)
      rw [spanDigits_fst_of_startsWithDigit hdigit, spanDigits_snd_append hds]
      exact ⟨hskip, hreal⟩
    · rw [if_neg hmore] at h
      rw [spanDigits_append hds (by simpa using hmore)]
      split at h
      · split at h
        · cases h
        · cases h
      · next hcount =>
        rw [if_neg (by simpa [List.isEmpty_iff] using hcount)]
        exact skipOptionalExponent_of_read h

lemma skipFraction_of_ne_point {cs : List Char} (h : ∀ rest, cs ≠ '.' :: rest) :
    skipFraction cs = skipOptionalExponent cs := by
  unfold skipFraction
  split
  · exact absurd rfl (h _)
  · rfl

/-- A number that is read is one that is passed over, and a whole one is read from its numeral. -/
theorem skipNumber_of_readNumber {positive : Bool} {cs rest : List Char} {x : Number}
    (h : readNumber positive cs = .ok (x, rest)) : skipNumber cs = .ok rest ∧
      ((∃ y, x = .real y) ∨ ∃ n, x = (if positive then .natural n else .negative n) ∧
        (positive = true ∨ n.toNat ≠ 0) ∧ cs = Text.decimal n.toNat ++ rest) := by
  cases cs with
  | nil => cases h
  | cons c cs =>
    rw [readNumber] at h
    rw [skipNumber_eq]
    by_cases hc : (!c.isDigit) = true
    · rw [if_pos hc] at h
      cases h
    rw [if_neg hc] at h ⊢
    by_cases hzero : c = '0' ∧ startsWithDigit cs = true
    · rw [if_pos hzero] at h
      cases h
    rw [if_neg hzero] at h ⊢
    have hdigit : c.isDigit = true := by simpa using hc
    have hrange := readDigits_fst_lt (Nat.lt_trans (digitValue_lt hdigit) (by decide)) cs
    rcases hread : readDigits (Text.digitValue c) cs with ⟨m, count, behind⟩
    rw [hread] at h hrange
    obtain ⟨ds, rfl, hds, rfl, rfl⟩ := of_readDigits hread
    have hshort : c = '0' → ds = [] := by
      intro hc0
      cases ds with
      | nil => rfl
      | cons d ds => exact absurd ⟨hc0, hds d (List.mem_cons_self ..)⟩ hzero
    have hvalue := UInt64.toNat_ofNat_of_lt' hrange
    have hnumeral (hdropped : (spanDigits behind).1 = []) : c :: (ds ++ behind) =
        Text.decimal (UInt64.ofNat (appendDigits (Text.digitValue c) ds)).toNat ++
          (spanDigits behind).2 := by
      have hbehind := List.takeWhile_append_dropWhile (p := Char.isDigit) (l := behind)
      rw [show behind.takeWhile Char.isDigit = [] from hdropped, List.nil_append] at hbehind
      rw [hvalue, ← decimal_of_digits hdigit hds hshort,
        show (spanDigits behind).2 = behind from hbehind]
      rfl
    rw [spanDigits_snd_append hds]
    dsimp only at h
    split at h
    · next tail hpoint =>
      obtain ⟨hskip, hreal⟩ := skipFraction_of_readFraction h
      exact ⟨hpoint ▸ hskip, .inl hreal⟩
    · next hpoint =>
      rw [skipFraction_of_ne_point hpoint, skipOptionalExponent]
      split_ifs at h with hmark hdropped hpositive hrounded
      · obtain ⟨hskip, hreal⟩ := skipExponent_of_readExponent h
        exact ⟨(if_pos hmark).trans hskip, .inl hreal⟩
      · obtain ⟨rfl, hreal⟩ := of_finishReal h
        exact ⟨if_neg hmark, .inl hreal⟩
      · cases h
        exact ⟨if_neg hmark, .inr ⟨_, (if_pos hpositive).symm, .inl hpositive,
          hnumeral (by simpa using hdropped)⟩⟩
      · obtain ⟨rfl, hreal⟩ := of_finishReal h
        exact ⟨if_neg hmark, .inl hreal⟩
      · cases h
        have hne : appendDigits (Text.digitValue c) ds ≠ 0 := fun hzero => hrounded (.inl hzero)
        exact ⟨if_neg hmark, .inr ⟨_, (if_neg hpositive).symm, .inr (hvalue.symm ▸ hne),
          hnumeral (by simpa using hdropped)⟩⟩

end EventGateway.Json

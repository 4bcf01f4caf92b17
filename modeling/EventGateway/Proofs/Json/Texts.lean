import EventGateway.Json.Lexis
import EventGateway.Json.Printer
import Mathlib.Tactic.Lemma
import Mathlib.Tactic.SplitIfs

/-!
# Texts read back

A text between quotes is read back as it was, whatever stands behind it.
-/

namespace EventGateway.Json

lemma hexValue?_digitChar {d : Nat} (hd : d < 16) : Text.hexValue? (Nat.digitChar d) = some d := by
  have hall : ∀ d : Fin 16, Text.hexValue? (Nat.digitChar d) = some d.val := by decide
  exact hall ⟨d, hd⟩

/-- A control character is escaped by its number. -/
lemma readEscape_control {c : Char} (hc : c.toNat < 0x20) (rest : List Char) :
    readEscape ('u' :: '0' :: '0' :: Nat.digitChar (c.toNat / 16) :: Nat.digitChar (c.toNat % 16) :: rest) =
      .ok (c, rest) := by
  have hzero : Text.hexValue? '0' = some 0 := by decide
  have hhigh := hexValue?_digitChar (show c.toNat / 16 < 16 by omega)
  have hlow := hexValue?_digitChar (show c.toNat % 16 < 16 by omega)
  have hnumber : ((0 * 16 + 0) * 16 + c.toNat / 16) * 16 + c.toNat % 16 = c.toNat := by omega
  have hhex : readHex ('0' :: '0' :: Nat.digitChar (c.toNat / 16) :: Nat.digitChar (c.toNat % 16) ::
      rest) = .ok (c.toNat, rest) := by
    simp only [readHex, hzero, hhigh, hlow, hnumber]
  have htrailing : isTrailing c.toNat = false := by simp [isTrailing]; omega
  have hleading : isLeading c.toNat = false := by simp [isLeading]; omega
  simp [readEscape, simpleEscape?, readCodePoint, hhex, bind, Except.bind, htrailing, hleading]

lemma readChars_escape {fuel : Nat} {c : Char} {escape cs : List Char}
    (h : readEscape escape = .ok (c, cs)) :
    readChars (fuel + 1) ('\\' :: escape) = (readChars fuel cs).map fun p => (c :: p.1, p.2) := by
  rw [readChars, if_neg (by decide), if_pos rfl]
  simp only [h, bind, Except.bind]
  cases readChars fuel cs <;> rfl

/-- A character is read back as it was, escaped or not. -/
lemma readChars_escapedChar (fuel : Nat) (c : Char) (cs : List Char) :
    readChars (fuel + 1) (escapedChar c ++ cs) =
      (readChars fuel cs).map fun p => (c :: p.1, p.2) := by
  unfold escapedChar
  split_ifs with hquote hslash hb hf hn hr ht hcontrol
  · subst hquote
    exact readChars_escape rfl
  · subst hslash
    exact readChars_escape rfl
  · exact readChars_escape (hb ▸ rfl)
  · exact readChars_escape (hf ▸ rfl)
  · exact readChars_escape (hn ▸ rfl)
  · exact readChars_escape (hr ▸ rfl)
  · exact readChars_escape (ht ▸ rfl)
  · exact readChars_escape (readEscape_control hcontrol cs)
  · rw [List.singleton_append, readChars, if_neg hquote, if_neg hslash, if_neg hcontrol]
    cases readChars fuel cs <;> rfl

lemma readChars_flatMap (s rest : List Char) {fuel : Nat} (hfuel : s.length < fuel) :
    readChars fuel (s.flatMap escapedChar ++ '"' :: rest) = .ok (s, rest) := by
  induction s generalizing fuel with
  | nil =>
    cases fuel with
    | zero => omega
    | succ fuel => rfl
  | cons c cs ih =>
    cases fuel with
    | zero => omega
    | succ fuel =>
      rw [List.flatMap_cons, List.append_assoc, readChars_escapedChar,
        ih (Nat.lt_of_succ_lt_succ hfuel)]
      rfl

lemma length_le_flatMap_escapedChar (s : List Char) : s.length ≤ (s.flatMap escapedChar).length := by
  induction s with
  | nil => exact Nat.le_refl 0
  | cons c cs ih =>
    have hc : 0 < (escapedChar c).length := by
      unfold escapedChar
      split_ifs <;> simp
    rw [List.flatMap_cons, List.length_append, List.length_cons]
    omega

/-- A text is read back from between its quotes. -/
theorem readString_flatMap (s : String) (rest : List Char) :
    readString (s.toList.flatMap escapedChar ++ '"' :: rest) = .ok (s, rest) := by
  have hlength := length_le_flatMap_escapedChar s.toList
  have hfuel : s.toList.length < (s.toList.flatMap escapedChar ++ '"' :: rest).length + 1 := by
    rw [List.length_append]
    omega
  rw [readString, readChars_flatMap s.toList rest hfuel]
  simp [bind, Except.bind]

lemma stringChars_append (s : String) (rest : List Char) :
    stringChars s ++ rest = '"' :: (s.toList.flatMap escapedChar ++ '"' :: rest) := by
  simp [stringChars]

end EventGateway.Json

import EventGateway.Text.Base64Url
import EventGateway.Text.Utf8
import Mathlib.Tactic.Lemma
import Mathlib.Tactic.Set
import Mathlib.Tactic.SplitIfs

/-!
# Written forms of bytes

Every row of bytes has exactly one written form, which reads back as the row, and nothing but written
forms is read. The same holds of texts as bytes.
-/

namespace EventGateway.Text

namespace Base64Url

/-! ### Letters -/

lemma value?_letter {n : Nat} (hn : n < 64) : value? (letter n) = some n := by
  have hall : ∀ n : Fin 64, value? (letter n) = some n.val := by decide
  exact hall ⟨n, hn⟩

lemma toNat_lt_of_value? {c : Char} {n : Nat} (h : value? c = some n) : c.toNat < 128 := by
  have hbelow {d : Char} (hd : d.toNat < 128) (hc : c ≤ d) : c.toNat < 128 :=
    Nat.lt_of_le_of_lt hc hd
  unfold value? at h
  split_ifs at h with hupper hlower hdigit hdash hline
  · exact hbelow (by decide) hupper.2
  · exact hbelow (by decide) hlower.2
  · exact hbelow (by decide) hdigit.2
  · exact hbelow (by decide) (Nat.le_of_eq (congrArg Char.toNat hdash))
  · exact hbelow (by decide) (Nat.le_of_eq (congrArg Char.toNat hline))

/-- A letter of the alphabet is the letter of its number. -/
lemma letter_of_value? {c : Char} {n : Nat} (h : value? c = some n) : letter n = c ∧ n < 64 := by
  have hall : ∀ k : Fin 128, ∀ n ∈ value? (Char.ofNat k), letter n = Char.ofNat k ∧ n < 64 := by
    decide
  have hc := hall ⟨c.toNat, toNat_lt_of_value? h⟩ n
  rw [Char.ofNat_toNat] at hc
  exact hc h

/-! ### Bytes -/

lemma ofNat_eq_of_toNat {a : UInt8} {n : Nat} (h : n = a.toNat) : UInt8.ofNat n = a := by
  rw [h, UInt8.ofNat_toNat]

/-- The written form of a row of bytes reads back as the row. -/
theorem decode_encode (bytes : List UInt8) : decode (encode bytes) = some bytes := by
  induction bytes using encode.induct with
  | case1 => rfl
  | case2 a =>
    have ha := a.toNat_lt
    have hn : a.toNat / 4 * 64 + a.toNat % 4 * 16 = a.toNat * 16 := by omega
    simp only [encode, decode, value?_letter (show a.toNat / 4 < 64 by omega),
      value?_letter (show a.toNat % 4 * 16 < 64 by omega), Option.bind_eq_bind, Option.bind_some, hn,
      Nat.mul_mod_left, if_true, Nat.mul_div_cancel _ (show 0 < 16 by decide), UInt8.ofNat_toNat]
  | case3 a b =>
    have ha := a.toNat_lt
    have hb := b.toNat_lt
    set n := a.toNat * 256 + b.toNat with hdef
    have hn : (n / 1024 * 64 + n / 16 % 64) * 64 + n % 16 * 4 = n * 4 := by omega
    have hfirst : UInt8.ofNat (n * 4 / 1024) = a := ofNat_eq_of_toNat (by omega)
    have hsecond : UInt8.ofNat (n * 4 / 4 % 256) = b := ofNat_eq_of_toNat (by omega)
    simp only [encode, decode, ← hdef, value?_letter (show n / 1024 < 64 by omega),
      value?_letter (show n / 16 % 64 < 64 by omega), value?_letter (show n % 16 * 4 < 64 by omega),
      Option.bind_eq_bind, Option.bind_some, hn, Nat.mul_mod_left, if_true, hfirst, hsecond]
  | case4 a b c rest ih =>
    have ha := a.toNat_lt
    have hb := b.toNat_lt
    have hc := c.toNat_lt
    set n := (a.toNat * 256 + b.toNat) * 256 + c.toNat with hdef
    have hn : ((n / 262144 * 64 + n / 4096 % 64) * 64 + n / 64 % 64) * 64 + n % 64 = n := by omega
    have hfirst : UInt8.ofNat (n / 65536) = a := ofNat_eq_of_toNat (by omega)
    have hsecond : UInt8.ofNat (n / 256 % 256) = b := ofNat_eq_of_toNat (by omega)
    have hthird : UInt8.ofNat (n % 256) = c := ofNat_eq_of_toNat (by omega)
    simp only [encode, decode, ← hdef, value?_letter (show n / 262144 < 64 by omega),
      value?_letter (show n / 4096 % 64 < 64 by omega), value?_letter (show n / 64 % 64 < 64 by omega),
      value?_letter (show n % 64 < 64 by omega), Option.bind_eq_bind, Option.bind_some, hn, ih, hfirst,
      hsecond, hthird]

/-- Only the written form of a row of bytes is read as the row. -/
theorem encode_of_decode {cs : List Char} {bytes : List UInt8} (h : decode cs = some bytes) :
    encode bytes = cs := by
  have hbyte {n : Nat} (hn : n < 256) : (UInt8.ofNat n).toNat = n :=
    (UInt8.toNat_ofNat').trans (Nat.mod_eq_of_lt hn)
  induction cs using decode.induct generalizing bytes with
  | case1 =>
    cases h
    rfl
  | case2 w => cases h
  | case3 w x =>
    simp only [decode, Option.bind_eq_bind, Option.bind_eq_some_iff] at h
    obtain ⟨i, hw, j, hx, h⟩ := h
    obtain ⟨rfl, hi⟩ := letter_of_value? hw
    obtain ⟨rfl, hj⟩ := letter_of_value? hx
    split at h
    · next hzero =>
      cases h
      have ha := hbyte (show (i * 64 + j) / 16 < 256 by omega)
      have hfirst : (i * 64 + j) / 16 / 4 = i := by omega
      have hsecond : (i * 64 + j) / 16 % 4 * 16 = j := by omega
      simp only [encode, ha, hfirst, hsecond]
    · cases h
  | case4 w x y =>
    simp only [decode, Option.bind_eq_bind, Option.bind_eq_some_iff] at h
    obtain ⟨i, hw, j, hx, k, hy, h⟩ := h
    obtain ⟨rfl, hi⟩ := letter_of_value? hw
    obtain ⟨rfl, hj⟩ := letter_of_value? hx
    obtain ⟨rfl, hk⟩ := letter_of_value? hy
    set n := (i * 64 + j) * 64 + k with hdef
    split at h
    · next hzero =>
      cases h
      have ha := hbyte (show n / 1024 < 256 by omega)
      have hb := hbyte (show n / 4 % 256 < 256 by omega)
      have hn : n / 1024 * 256 + n / 4 % 256 = n / 4 := by omega
      have hfirst : n / 4 / 1024 = i := by omega
      have hsecond : n / 4 / 16 % 64 = j := by omega
      have hthird : n / 4 % 16 * 4 = k := by omega
      simp only [encode, ha, hb, hn, hfirst, hsecond, hthird]
    · cases h
  | case5 w x y z rest ih =>
    simp only [decode, Option.bind_eq_bind, Option.bind_eq_some_iff] at h
    obtain ⟨i, hw, j, hx, k, hy, l, hz, others, hothers, h⟩ := h
    obtain ⟨rfl, hi⟩ := letter_of_value? hw
    obtain ⟨rfl, hj⟩ := letter_of_value? hx
    obtain ⟨rfl, hk⟩ := letter_of_value? hy
    obtain ⟨rfl, hl⟩ := letter_of_value? hz
    set n := ((i * 64 + j) * 64 + k) * 64 + l with hdef
    cases h
    have ha := hbyte (show n / 65536 < 256 by omega)
    have hb := hbyte (show n / 256 % 256 < 256 by omega)
    have hc := hbyte (show n % 256 < 256 by omega)
    have hn : (n / 65536 * 256 + n / 256 % 256) * 256 + n % 256 = n := by omega
    have hfirst : n / 262144 = i := by omega
    have hsecond : n / 4096 % 64 = j := by omega
    have hthird : n / 64 % 64 = k := by omega
    have hfourth : n % 64 = l := by omega
    simp only [encode, ha, hb, hc, hn, hfirst, hsecond, hthird, hfourth, ih hothers]

/-- No dot is a letter, so a dot ends a written form. -/
lemma dot_not_mem_encode (bytes : List UInt8) : '.' ∉ encode bytes := by
  have hletter {n : Nat} (hn : n < 64) : '.' ≠ letter n := by
    intro h
    have hvalue := value?_letter hn
    rw [← h] at hvalue
    cases hvalue
  induction bytes using encode.induct with
  | case1 => simp [encode]
  | case2 a =>
    have ha := a.toNat_lt
    simp [encode, hletter (show a.toNat / 4 < 64 by omega),
      hletter (show a.toNat % 4 * 16 < 64 by omega)]
  | case3 a b =>
    have ha := a.toNat_lt
    have hb := b.toNat_lt
    set n := a.toNat * 256 + b.toNat with hdef
    simp [encode, ← hdef, hletter (show n / 1024 < 64 by omega),
      hletter (show n / 16 % 64 < 64 by omega), hletter (show n % 16 * 4 < 64 by omega)]
  | case4 a b c rest ih =>
    have ha := a.toNat_lt
    have hb := b.toNat_lt
    have hc := c.toNat_lt
    set n := (a.toNat * 256 + b.toNat) * 256 + c.toNat with hdef
    simp [encode, ← hdef, hletter (show n / 262144 < 64 by omega),
      hletter (show n / 4096 % 64 < 64 by omega), hletter (show n / 64 % 64 < 64 by omega),
      hletter (show n % 64 < 64 by omega), ih]

end Base64Url

/-! ### Texts -/

/-- The bytes of a text are read as the text. -/
theorem ofUtf8?_utf8 (cs : List Char) : ofUtf8? (utf8 cs) = some cs := by
  have hbytes : (⟨(utf8 cs).toArray⟩ : ByteArray) = (String.ofList cs).toByteArray := rfl
  rw [ofUtf8?, hbytes, String.fromUTF8?, dif_pos (String.ofList cs).isValidUTF8]
  exact congrArg some String.toList_ofList

/-- Only the bytes of a text are read as the text. -/
theorem utf8_of_ofUtf8? {bytes : List UInt8} {cs : List Char} (h : ofUtf8? bytes = some cs) :
    utf8 cs = bytes := by
  obtain ⟨s, hs, rfl⟩ := Option.map_eq_some_iff.1 h
  unfold String.fromUTF8? at hs
  split at hs
  · cases hs
    rw [utf8, String.ofList_toList]
    rfl
  · cases hs

end EventGateway.Text

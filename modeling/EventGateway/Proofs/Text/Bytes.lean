import EventGateway.Text.Utf8
import Mathlib.Tactic.ByContra
import Mathlib.Tactic.Lemma
import Mathlib.Tactic.SplitIfs

/-!
# The order of bytes

Texts are ordered as their bytes are: the bytes of a character tell its place in the order, whatever
stands behind them.
-/

namespace EventGateway.Text

lemma utf8_eq_flatMap (cs : List Char) : utf8 cs = cs.flatMap String.utf8EncodeChar := by
  simp [utf8, List.utf8Encode]

lemma toNat_byte {n : Nat} (h : n < 256) : (UInt8.ofNat n).toNat = n :=
  UInt8.toNat_ofNat_of_lt' h

/-- A lesser character has lesser bytes, whatever stands behind them. -/
lemma utf8EncodeChar_append_lt {c d : Char} (h : c < d) (bytes others : List UInt8) :
    String.utf8EncodeChar c ++ bytes < String.utf8EncodeChar d ++ others := by
  have hlt : c.val.toNat < d.val.toNat := UInt32.lt_iff_toNat_lt.1 h
  have hmax : d.val.toNat < 0x110000 := by
    have hvalid := d.valid
    simp only [UInt32.isValidChar, Nat.isValidChar] at hvalid
    omega
  unfold String.utf8EncodeChar
  generalize c.val.toNat = m at hlt
  generalize d.val.toNat = n at hlt hmax
  -- the digits of both numbers to the base 64, which the bytes are made of
  have hm : m / 64 = 64 * (m / 4096) + m / 64 % 64 := by omega
  have hm' : m / 4096 = 64 * (m / 262144) + m / 4096 % 64 := by omega
  have hm'' : m / 262144 % 8 = m / 262144 := Nat.mod_eq_of_lt (by omega)
  have hn : n / 64 = 64 * (n / 4096) + n / 64 % 64 := by omega
  have hn' : n / 4096 = 64 * (n / 262144) + n / 4096 % 64 := by omega
  have hn'' : n / 262144 % 8 = n / 262144 := Nat.mod_eq_of_lt (by omega)
  dsimp only
  split_ifs
  all_goals
    simp (disch := omega) only [List.cons_append, List.nil_append, List.cons_lt_cons_iff,
      UInt8.lt_iff_toNat_lt, ← UInt8.toNat_inj, toNat_byte, hm'', hn'']
    omega

lemma utf8_lt_of_lt {cs ds : List Char} (h : cs < ds) : utf8 cs < utf8 ds := by
  rw [utf8_eq_flatMap, utf8_eq_flatMap]
  induction h with
  | @nil d ds =>
    rw [List.flatMap_nil, List.flatMap_cons]
    obtain ⟨b, bytes, hb⟩ := List.exists_cons_of_ne_nil (String.utf8EncodeChar_ne_nil (c := d))
    rw [hb]
    exact .nil
  | rel h => exact utf8EncodeChar_append_lt h _ _
  | @cons c cs ds _ ih =>
    rw [List.flatMap_cons, List.flatMap_cons]
    exact List.append_left_lt ih

/-- Texts are in the order of their bytes. -/
theorem utf8_lt_iff {s t : String} : utf8 s.toList < utf8 t.toList ↔ s < t := by
  change _ ↔ s.toList < t.toList
  refine ⟨fun h => ?_, utf8_lt_of_lt⟩
  by_contra hnot
  rcases List.le_iff_lt_or_eq.1 (List.not_lt.1 hnot) with hlt | heq
  · exact List.lt_asymm h (utf8_lt_of_lt hlt)
  · rw [heq] at h
    exact List.lt_irrefl _ h

end EventGateway.Text

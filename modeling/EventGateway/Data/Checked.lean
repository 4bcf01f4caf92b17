/-!
# Checked arithmetic

Sums and products of machine integers. One that does not fit stops the program, with a message that
names the operation.
-/

namespace EventGateway

/-- An operation whose result does not fit. -/
inductive Overflow where
  | add
  | multiply
  deriving DecidableEq, Repr, Inhabited

/-- What the program stops with. -/
def Overflow.message : Overflow → String
  | .add => "attempt to add with overflow"
  | .multiply => "attempt to multiply with overflow"

def addChecked (a b : Int32) : Except Overflow Int32 :=
  if (a + b).toInt = a.toInt + b.toInt then .ok (a + b) else .error .add

def mulChecked (a b : UInt64) : Except Overflow UInt64 :=
  if a.toNat * b.toNat < UInt64.size then .ok (a * b) else .error .multiply

/-- A sum that is given is exact, and every sum that fits is given. -/
theorem addChecked_eq_ok_iff {a b c : Int32} :
    addChecked a b = .ok c ↔ c.toInt = a.toInt + b.toInt := by
  unfold addChecked
  constructor
  · intro h
    split at h
    · next hfits => cases h; exact hfits
    · cases h
  · intro h
    have hsum : a + b = c := by
      rw [← Int32.toInt_inj, Int32.toInt_add, ← h]
      have hle := c.le_toInt
      have hlt := c.toInt_lt
      exact Int.bmod_eq_of_le (by omega) (by omega)
    rw [hsum, if_pos h]

/-- A product that is given is exact, and every product that fits is given. -/
theorem mulChecked_eq_ok_iff {a b c : UInt64} :
    mulChecked a b = .ok c ↔ c.toNat = a.toNat * b.toNat := by
  unfold mulChecked
  have htoNat (hfits : a.toNat * b.toNat < UInt64.size) : (a * b).toNat = a.toNat * b.toNat :=
    (UInt64.toNat_mul a b).trans (Nat.mod_eq_of_lt hfits)
  constructor
  · intro h
    split at h
    · next hfits => cases h; exact htoNat hfits
    · cases h
  · intro h
    have hfits : a.toNat * b.toNat < UInt64.size := h ▸ c.toNat_lt_size
    rw [if_pos hfits, Except.ok.injEq, ← UInt64.toNat_inj, htoNat hfits, h]

end EventGateway

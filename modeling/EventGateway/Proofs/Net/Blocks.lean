import EventGateway.Proofs.Net.Spelling
import Mathlib.Data.List.Induction

/-!
# Blocks of addresses

A netmask that is read from the text of an address and a length stands for the addresses that agree with
the address on the first bits, those of the other family being taken in their mapped form. It does not for
a network of the second family and an address in mapped form, which is looked for in networks of the first
family only: such a network does not even contain itself. Main statement:
`block_is_prefix_unless_mapped`.
-/

namespace EventGateway.Net

/-! ### First bits -/

/-- The words agree on their first bits. -/
def SamePrefix {w : Nat} (length : Nat) (a b : BitVec w) : Prop :=
  ∀ i < length, a.getMsbD i = b.getMsbD i

lemma Netmask.agree_iff {w length : Nat} (hlength : length ≤ w) {a b : BitVec w} :
    agree length a b = true ↔ SamePrefix length a b := by
  by_cases hzero : length = 0
  · simp [agree, SamePrefix, hzero]
  simp only [agree, hzero, decide_false, Bool.false_or, beq_iff_eq]
  constructor
  · intro h i hi
    have hbit := congrArg (fun x : BitVec w => x.getLsbD (length - 1 - i)) h
    simp only [BitVec.getLsbD_ushiftRight] at hbit
    have hplace : w - length + (length - 1 - i) = w - 1 - i := by omega
    rw [hplace] at hbit
    simp [BitVec.getMsbD, hbit]
  · intro h
    apply BitVec.eq_of_getLsbD_eq
    intro i hi
    simp only [BitVec.getLsbD_ushiftRight]
    by_cases hin : i < length
    · have hbit := h (length - 1 - i) (by omega)
      have hplace : w - 1 - (length - 1 - i) = w - length + i := by omega
      simpa [BitVec.getMsbD, hplace, show length - 1 - i < w by omega] using hbit
    · rw [BitVec.getLsbD_of_ge _ _ (by omega), BitVec.getLsbD_of_ge _ _ (by omega)]

/-! ### Mapped addresses -/

/-- The address of the second family that an address of the first one is mapped to. -/
def mappedForm (a : BitVec 32) : BitVec 128 := (0#80 ++ 0xffff#16) ++ a

lemma toNat_mappedForm (a : BitVec 32) : (mappedForm a).toNat = 65535 * 2 ^ 32 + a.toNat := by
  have hmark : (0#80 ++ 0xffff#16).toNat = 65535 := by decide
  rw [mappedForm, BitVec.toNat_append, hmark, ← Nat.shiftLeft_add_eq_or_of_lt a.isLt, Nat.shiftLeft_eq]

lemma shift_eq_mappedMark_iff {x : BitVec 128} :
    x >>> 32 = Address.mappedMark ↔ x = mappedForm (x.truncate 32) := by
  have hmark : Address.mappedMark.toNat = 65535 := by decide
  rw [← BitVec.toNat_inj, ← BitVec.toNat_inj, toNat_mappedForm, hmark, BitVec.toNat_ushiftRight,
    BitVec.truncate_eq_setWidth, BitVec.toNat_setWidth, Nat.shiftRight_eq_div_pow]
  omega

@[simp] lemma truncate_mappedForm (a : BitVec 32) : (mappedForm a).truncate 32 = a := by
  have ha := a.isLt
  apply BitVec.eq_of_toNat_eq
  rw [BitVec.truncate_eq_setWidth, BitVec.toNat_setWidth, toNat_mappedForm]
  omega

lemma mappedForm_injective {a b : BitVec 32} (h : mappedForm a = mappedForm b) : a = b := by
  rw [← truncate_mappedForm a, h, truncate_mappedForm]

namespace Address

/-- Is the address the mapped form of one of the first family? -/
def IsMapped : Address → Prop
  | .v4 _ => False
  | .v6 bits => ∃ a, bits = mappedForm a

lemma isMapped_v6 {bits : BitVec 128} : (v6 bits).IsMapped ↔ bits >>> 32 = mappedMark := by
  refine ⟨?_, fun h => ⟨_, shift_eq_mappedMark_iff.1 h⟩⟩
  rintro ⟨a, rfl⟩
  rw [shift_eq_mappedMark_iff, truncate_mappedForm]

instance (a : Address) : Decidable a.IsMapped :=
  match a with
  | v4 _ => inferInstanceAs (Decidable False)
  | v6 _ => decidable_of_iff _ isMapped_v6.symm

lemma unmap_mappedForm (a : BitVec 32) : (v6 (mappedForm a)).unmap = v4 a := by
  rw [unmap, if_pos (isMapped_v6.1 ⟨a, rfl⟩), truncate_mappedForm]

lemma unmap_of_not_isMapped {a : Address} (h : ¬ a.IsMapped) : a.unmap = a := by
  cases a with
  | v4 a => rfl
  | v6 bits =>
    rw [unmap, if_neg (mt isMapped_v6.2 h)]

end Address

/-! ### Blocks -/

/-- The addresses that agree with the network on the first bits: those of its family, and where it is of
the first family, those that are mapped. -/
def InBlock (network : Address) (length : Nat) (a : Address) : Prop :=
  match network, a with
  | .v4 net, .v4 bits => SamePrefix length net bits
  | .v6 net, .v6 bits => SamePrefix length net bits
  | .v4 net, .v6 bits => ∃ b, bits = mappedForm b ∧ SamePrefix length net b
  | .v6 _, .v4 _ => False

namespace Netmask

/-- A block has the addresses that agree with its network on the first bits, but a network of the second
family has none in mapped form. -/
lemma contains_iff {network : Address} {length : Nat} (hlength : length ≤ network.width) (a : Address) :
    (⟨network, length⟩ : Netmask).contains a = true ↔
      InBlock network length a ∧ ¬ (network.width = 128 ∧ a.IsMapped) := by
  cases network with
  | v4 net =>
    have hfirst : ¬ ((Address.v4 net).width = 128 ∧ a.IsMapped) := by simp [Address.width]
    rw [iff_true_intro hfirst, and_true]
    cases a with
    | v4 bits => exact agree_iff hlength
    | v6 bits =>
      by_cases hmapped : (Address.v6 bits).IsMapped
      · obtain ⟨b, rfl⟩ := hmapped
        simp only [contains, Address.unmap_mappedForm, InBlock]
        refine (agree_iff hlength).trans ⟨fun h => ⟨b, rfl, h⟩, ?_⟩
        rintro ⟨b', hb, h⟩
        rwa [mappedForm_injective hb]
      · simp only [contains, Address.unmap_of_not_isMapped hmapped, InBlock, Bool.false_eq_true,
          false_iff]
        exact fun ⟨b, hb, _⟩ => hmapped ⟨b, hb⟩
  | v6 net =>
    cases a with
    | v4 bits => simp [contains, Address.unmap, InBlock]
    | v6 bits =>
      by_cases hmapped : (Address.v6 bits).IsMapped
      · obtain ⟨b, rfl⟩ := hmapped
        have hsecond : (Address.v6 net).width = 128 ∧ (Address.v6 (mappedForm b)).IsMapped :=
          ⟨rfl, b, rfl⟩
        simp [contains, Address.unmap_mappedForm, hsecond]
      · simp only [contains, Address.unmap_of_not_isMapped hmapped, InBlock, hmapped, and_false,
          not_false_eq_true, and_true]
        exact agree_iff hlength

end Netmask

/-- Bits of the network behind the first ones do not matter. -/
lemma inBlock_congr {n m : Address} {length : Nat} (hfamily : m.width = n.width)
    (h : InBlock n length m) (a : Address) : InBlock m length a ↔ InBlock n length a := by
  cases n with
  | v4 n =>
    cases m with
    | v6 m => simp [Address.width] at hfamily
    | v4 m =>
      have hsame (bits : BitVec 32) : SamePrefix length m bits ↔ SamePrefix length n bits :=
        forall₂_congr fun i hi => by rw [h i hi]
      cases a with
      | v4 bits => exact hsame bits
      | v6 bits => exact exists_congr fun b => and_congr_right fun _ => hsame b
  | v6 n =>
    cases m with
    | v4 m => simp [Address.width] at hfamily
    | v6 m =>
      cases a with
      | v4 bits => exact Iff.rfl
      | v6 bits => exact forall₂_congr fun i hi => by rw [h i hi]

lemma inBlock_self (n : Address) (length : Nat) : InBlock n length n := by
  cases n with
  | v4 n => exact fun _ _ => rfl
  | v6 n => exact fun _ _ => rfl

/-! ### Netmasks in written form -/

lemma trim_eq_self {t : List Char} (h : ∀ c ∈ t, Text.isBlank c = false) : Text.trim t = t := by
  have hdrop {t : List Char} (h : ∀ c ∈ t, Text.isBlank c = false) :
      t.dropWhile Text.isBlank = t := by
    cases t with
    | nil => rfl
    | cons c t => rw [List.dropWhile_cons_of_neg (by simp [h c (List.mem_cons_self ..)])]
  rw [Text.trim, hdrop h, hdrop fun c hc => h c (List.mem_reverse.1 hc), List.reverse_reverse]

lemma splitSlash_append {t length : List Char} (ht : ∀ c ∈ t, c ≠ '/') :
    Netmask.splitSlash (t ++ '/' :: length) = (t, some length) := by
  have hall : ∀ c ∈ t, decide (c ≠ '/') = true := fun c hc => decide_eq_true (ht c hc)
  rw [Netmask.splitSlash, List.dropWhile_append_of_pos hall, List.takeWhile_append_of_pos hall]
  simp

lemma splitSlash_of_not_mem {t : List Char} (ht : ∀ c ∈ t, c ≠ '/') :
    Netmask.splitSlash t = (t, none) := by
  have hall : ∀ c ∈ t, decide (c ≠ '/') = true := fun c hc => decide_eq_true (ht c hc)
  have hdrop : (t ++ []).dropWhile (· ≠ '/') = [] := List.dropWhile_append_of_pos hall
  rw [List.append_nil] at hdrop
  rw [Netmask.splitSlash, hdrop]

namespace Netmask

variable {t : List Char} {n : Address}

lemma ofText?_block (h : Spells t n) {length : Nat} (hlength : length ≤ n.width) :
    ofText? (String.ofList (t ++ '/' :: Text.decimal length)) = some ⟨n, length⟩ := by
  have hplain := fun c hc => (h.isAddressChar c hc).plain
  have hbelow : length < 256 := by
    have : n.width ≤ 128 := by cases n <;> simp [Address.width]
    omega
  have hdigits : Text.trim (Text.decimal length) = Text.decimal length :=
    trim_eq_self fun c hc => (isAddressChar_of_isDigit (Json.isDigit_of_mem_decimal hc)).plain.2
  rw [ofText?, String.toList_ofList, splitSlash_append fun c hc => (hplain c hc).1]
  simp only
  rw [trim_eq_self fun c hc => (hplain c hc).2, ofText?_of_spells h, hdigits]
  simp [Json.unsigned?_decimal hbelow, hlength]

lemma ofText?_host (h : Spells t n) : ofText? (String.ofList t) = some ⟨n, n.width⟩ := by
  have hplain := fun c hc => (h.isAddressChar c hc).plain
  rw [ofText?, String.toList_ofList, splitSlash_of_not_mem fun c hc => (hplain c hc).1]
  simp only
  rw [trim_eq_self fun c hc => (hplain c hc).2, ofText?_of_spells h]
  rfl

end Netmask

/-- A netmask in written form, an address with or without a length, is read as the block of the addresses
that agree with the address on the first bits, on all of them if no length is given; the other bits do not
matter. But where the network is of the second family, an address in mapped form is never in the block,
not even the network itself. -/
theorem block_is_prefix_unless_mapped (n : Address) :
    (∃ t, Spells t n) ∧
    ∀ t, Spells t n → ∀ length ≤ n.width, ∃ block host : Netmask,
      Netmask.ofText? (String.ofList (t ++ '/' :: Text.decimal length)) = some block ∧
      Netmask.ofText? (String.ofList t) = some host ∧
      (∀ a, block.contains a = true ↔
        InBlock n length a ∧ ¬ (n.width = 128 ∧ a.IsMapped)) ∧
      (∀ a, host.contains a = true ↔
        InBlock n n.width a ∧ ¬ (n.width = 128 ∧ a.IsMapped)) ∧
      (block.contains n = true ↔ ¬ n.IsMapped) ∧
      (host.contains n = true ↔ ¬ n.IsMapped) ∧
      ∀ m s, m.width = n.width → InBlock n length m → Spells s m → ∃ same : Netmask,
        Netmask.ofText? (String.ofList (s ++ '/' :: Text.decimal length)) = some same ∧
        ∀ a, same.contains a = block.contains a := by
  refine ⟨exists_spells n, fun t ht length hlength => ?_⟩
  have hself {k : Nat} (hk : k ≤ n.width) :
      (⟨n, k⟩ : Netmask).contains n = true ↔ ¬ n.IsMapped := by
    rw [Netmask.contains_iff hk, iff_true_intro (inBlock_self n k), true_and]
    cases n with
    | v4 n => simp [Address.IsMapped]
    | v6 n => simp [Address.width]
  refine ⟨⟨n, length⟩, ⟨n, n.width⟩, Netmask.ofText?_block ht hlength, Netmask.ofText?_host ht,
    Netmask.contains_iff hlength, Netmask.contains_iff (Nat.le_refl _), hself hlength,
    hself (Nat.le_refl _), ?_⟩
  intro m s hfamily hblock hs
  have hlength' : length ≤ m.width := hfamily ▸ hlength
  refine ⟨⟨m, length⟩, Netmask.ofText?_block hs hlength', fun a => ?_⟩
  rw [Bool.eq_iff_iff, Netmask.contains_iff hlength', Netmask.contains_iff hlength, hfamily,
    inBlock_congr hfamily hblock]

/-- Hexadecimal digits spell what they stand for one after the other. -/
lemma spellsGroup_of_digits {t : List Char} {n : Nat} (hne : t ≠ []) (hlength : t.length ≤ 4)
    (hdigits : t.all (fun c => (Text.hexValue? c).isSome) = true)
    (hvalue : t.foldl (fun n c => n * 16 + (Text.hexValue? c).getD 0) 0 = n) : SpellsGroup t n := by
  refine ⟨?_, hne, hlength⟩
  rw [← hvalue]
  rw [List.all_eq_true] at hdigits
  clear hvalue hne hlength
  induction t using List.reverseRecOn with
  | nil => exact .nil
  | append_singleton t c ih =>
    obtain ⟨d, hd⟩ := Option.isSome_iff_exists.1 (hdigits c (by simp))
    have hlast := (ih fun x hx => hdigits x (by simp [hx])).snoc hd
    rwa [List.foldl_append, List.foldl_cons, List.foldl_nil, hd, Option.getD_some]

/-- A network of the second family. -/
def documentation : Address := .v6 (.ofNat 128 (joinGroups ([0x2001, 0xdb8] ++ List.replicate 6 0)))

lemma spells_documentation : Spells "2001:db8::".toList documentation := by
  have hfirst : SpellsGroup "2001".toList 0x2001 :=
    spellsGroup_of_digits (by decide) (by decide) (by decide) (by decide)
  have hsecond : SpellsGroup "db8".toList 0xdb8 :=
    spellsGroup_of_digits (by decide) (by decide) (by decide) (by decide)
  exact .short (.some (.cons hfirst (.last hsecond))) .none (by decide)

/-- The network is in its block, and its neighbour is not. -/
theorem documentation_block :
    Spells "2001:db8::".toList documentation ∧ 32 ≤ documentation.width ∧
      ∃ block, Netmask.ofText? "2001:db8::/32" = some block ∧ block.contains documentation = true ∧
        block.contains (.v6 (.ofNat 128 (0x20010db9 * 2 ^ 96))) = false := by
  have hwidth : 32 ≤ documentation.width := by decide
  obtain ⟨-, hblocks⟩ := block_is_prefix_unless_mapped documentation
  obtain ⟨block, -, hread, -, hcontains, -, hself, -, -⟩ := hblocks _ spells_documentation 32 hwidth
  refine ⟨spells_documentation, hwidth, block, hread, hself.2 (by decide), ?_⟩
  rw [← Bool.not_eq_true, hcontains]
  rintro ⟨hagree, -⟩
  exact absurd (hagree 31 (by decide)) (by decide)

/-- The mapped form of an address as a network: it is read as the block of itself only, and this block is
empty. -/
theorem mapped_network_lacks_itself :
    let network : Address := .v6 (mappedForm 0x0a01c803#32)
    Spells "::ffff:10.1.200.3".toList network ∧
      Netmask.ofText? "::ffff:10.1.200.3" = some ⟨network, 128⟩ ∧ InBlock network 128 network ∧
      (⟨network, 128⟩ : Netmask).contains network = false := by
  intro network
  have hfirst : SpellsGroup "ffff".toList 0xffff :=
    spellsGroup_of_digits (by decide) (by decide) (by decide) (by decide)
  have hlast := SpellsOctets.mk (a := 10) (b := 1) (c := 200) (d := 3)
    (by decide) (by decide) (by decide) (by decide)
  have hspells : Spells "::ffff:10.1.200.3".toList network :=
    .short .none (.some (.cons hfirst (.dotted rfl hlast))) (by decide)
  exact ⟨hspells, Netmask.ofText?_host hspells, inBlock_self network 128, by decide⟩

end EventGateway.Net

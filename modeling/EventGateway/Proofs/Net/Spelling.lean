import EventGateway.Net.Netmask
import EventGateway.Proofs.Json.Numerals
import Mathlib.Algebra.Group.Nat.Defs
import Mathlib.Tactic.Set

/-!
# Spellings of addresses

The written forms of an address, told without the reader: four octets between dots, eight groups of up
to four hexadecimal digits between colons, a run of zero groups left out between two colons, and the last
two groups as octets. Main statements: every address has a spelling (`exists_spells`), and every spelling
of an address is read as this address (`ofText?_of_spells`).
-/

namespace EventGateway.Net

/-! ### Numerals -/

/-- The digits spell the number in the base. -/
inductive SpellsNumber (digit? : Char → Option Nat) (base : Nat) : List Char → Nat → Prop
  | nil : SpellsNumber digit? base [] 0
  | snoc {cs : List Char} {n d : Nat} {c : Char} : SpellsNumber digit? base cs n →
    digit? c = some d → SpellsNumber digit? base (cs ++ [c]) (n * base + d)

section

variable {digit? : Char → Option Nat} {base n : Nat} {cs rest : List Char}

lemma SpellsNumber.isSome_digit? (h : SpellsNumber digit? base cs n) {c : Char} (hc : c ∈ cs) :
    (digit? c).isSome = true := by
  induction h with
  | nil => cases hc
  | @snoc cs _ _ x _ hx ih =>
    rcases List.mem_append.1 hc with hc | hc
    · exact ih hc
    · rw [List.mem_singleton.1 hc, hx]
      rfl

lemma SpellsNumber.foldl_eq (h : SpellsNumber digit? base cs n) :
    cs.foldl (fun n c => n * base + (digit? c).getD 0) 0 = n := by
  induction h with
  | nil => rfl
  | snoc _ hx ih => rw [List.foldl_append, ih, List.foldl_cons, List.foldl_nil, hx, Option.getD_some]

lemma takeWhile_append_of_stop {p : Char → Bool} (hcs : ∀ c ∈ cs, p c = true)
    (hrest : ∀ c ∈ rest.head?, p c = false) : (cs ++ rest).takeWhile p = cs := by
  rw [List.takeWhile_append_of_pos hcs]
  cases rest with
  | nil => rw [List.takeWhile_nil, List.append_nil]
  | cons c rest => rw [List.takeWhile_cons_of_neg (by simp [hrest c rfl]), List.append_nil]

/-- A numeral is read in front of anything that does not go on with a digit. -/
lemma readDigitRun_append {most : Nat} {leadingZeros : Bool} (h : SpellsNumber digit? base cs n)
    (hne : cs ≠ []) (hlength : cs.length ≤ most)
    (hzero : leadingZeros = true ∨ (cs.head? = some '0' → cs.length = 1))
    (hrest : ∀ c ∈ rest.head?, digit? c = none) :
    readDigitRun digit? base most leadingZeros (cs ++ rest) = some (n, rest) := by
  have hrun : (cs ++ rest).takeWhile (fun c => (digit? c).isSome) = cs :=
    takeWhile_append_of_stop (fun c => h.isSome_digit?) fun c hc => by rw [hrest c hc]; rfl
  simp only [readDigitRun, hrun]
  rw [if_neg, if_neg, h.foldl_eq, List.drop_left]
  · rintro ⟨hleading, hhead, hone⟩
    rcases hzero with hzero | hzero
    · simp [hzero] at hleading
    · exact hone (hzero hhead)
  · simpa [hne] using hlength

end

/-- A decimal numeral spells its number. -/
lemma spellsNumber_decimal (n : Nat) : SpellsNumber decimalDigit? 10 (Text.decimal n) n := by
  have hdigit : ∀ d < 10, decimalDigit? (Nat.digitChar d) = some d := by decide
  induction n using Nat.strongRecOn with
  | ind n ih =>
    by_cases hn : n < 10
    · rw [Text.decimal, Nat.toDigits_of_lt_base hn]
      have hnil : SpellsNumber decimalDigit? 10 [] 0 := .nil
      have hlast := hnil.snoc (hdigit n hn)
      rwa [Nat.zero_mul, Nat.zero_add] at hlast
    · have hshape : Text.decimal n = Text.decimal (n / 10) ++ [Nat.digitChar (n % 10)] :=
        Nat.toDigits_of_base_le (by decide) (by omega)
      have hlast := SpellsNumber.snoc (ih (n / 10) (by omega)) (hdigit (n % 10) (by omega))
      rwa [← hshape, Nat.mul_comm, Nat.div_add_mod] at hlast

/-! ### Four octets -/

/-- Four octets between dots, which stand for one number. -/
inductive SpellsOctets : List Char → Nat → Prop
  | mk {a b c d : Nat} : a < 256 → b < 256 → c < 256 → d < 256 →
    SpellsOctets (Text.decimal a ++ '.' :: (Text.decimal b ++ '.' ::
      (Text.decimal c ++ '.' :: Text.decimal d))) (((a * 256 + b) * 256 + c) * 256 + d)

lemma readOctet_append {n : Nat} (hn : n < 256) {rest : List Char}
    (hrest : ∀ c ∈ rest.head?, decimalDigit? c = none) :
    readOctet (Text.decimal n ++ rest) = some (n, rest) := by
  have hlength : (Text.decimal n).length ≤ 3 := by
    have hall : ∀ n < 256, (Text.decimal n).length ≤ 3 := by decide +kernel
    exact hall n hn
  have hzero : (Text.decimal n).head? = some '0' → (Text.decimal n).length = 1 := by
    obtain ⟨d, ds, hd⟩ := Json.exists_decimal_eq_cons n
    rw [hd]
    intro hhead
    cases hhead
    rw [Json.eq_nil_of_decimal_eq_zero_cons hd]
    rfl
  rw [readOctet, readDigitRun_append (spellsNumber_decimal n) Nat.toDigits_ne_nil hlength
    (.inr hzero) hrest, Option.filter_some, if_pos (by simpa using hn)]

lemma readV4_append {t rest : List Char} {n : Nat} (h : SpellsOctets t n)
    (hrest : ∀ c ∈ rest.head?, decimalDigit? c = none) : readV4 (t ++ rest) = some (n, rest) := by
  have hdot : ∀ cs : List Char, ∀ c ∈ ('.' :: cs).head?, decimalDigit? c = none := by
    rintro cs c hc
    cases hc
    rfl
  cases h with
  | mk ha hb hc hd =>
    simp only [readV4, List.append_assoc, List.cons_append]
    rw [readOctet_append ha (hdot _)]
    simp only [Option.bind_eq_bind, Option.bind_some, readChar, if_true]
    rw [readOctet_append hb (hdot _)]
    simp only [Option.bind_some, if_true]
    rw [readOctet_append hc (hdot _)]
    simp only [Option.bind_some, if_true]
    rw [readOctet_append hd hrest]
    rfl

/-- What an octet leaves begins with the first character that is no decimal digit. -/
lemma rest_of_readOctet {cs rest : List Char} {n : Nat} (h : readOctet cs = some (n, rest)) :
    rest = cs.dropWhile fun c => (decimalDigit? c).isSome := by
  obtain ⟨hrun, -⟩ := Option.filter_eq_some_iff.1 h
  simp only [readDigitRun] at hrun
  split_ifs at hrun
  cases hrun
  set isDigit := fun c => (decimalDigit? c).isSome
  calc cs.drop (cs.takeWhile isDigit).length
    _ = (cs.takeWhile isDigit ++ cs.dropWhile isDigit).drop (cs.takeWhile isDigit).length := by
        rw [List.takeWhile_append_dropWhile]
    _ = cs.dropWhile isDigit := List.drop_left

/-- No octets are read where no dot follows the first digits. -/
lemma readV4_eq_none {t rest : List Char} (ht : '.' ∉ t)
    (hrest : ∀ c ∈ rest.head?, c = ':') : readV4 (t ++ rest) = none := by
  have hnext : ∀ c ∈ ((t ++ rest).dropWhile fun c => (decimalDigit? c).isSome).head?, c ≠ '.' := by
    induction t with
    | nil =>
      intro c hc
      cases rest with
      | nil => cases hc
      | cons x rest =>
        obtain rfl := hrest x rfl
        cases hc
        decide
    | cons x t ih =>
      rw [List.cons_append, List.dropWhile_cons]
      split
      · exact ih fun h => ht (List.mem_cons_of_mem _ h)
      · intro c hc
        cases hc
        exact fun h => ht (h ▸ List.mem_cons_self ..)
  cases hoctet : readOctet (t ++ rest) with
  | none => simp [readV4, hoctet]
  | some p =>
    have hdot : readChar '.' p.2 = none := by
      rw [rest_of_readOctet hoctet]
      revert hnext
      cases (t ++ rest).dropWhile fun c => (decimalDigit? c).isSome with
      | nil => exact fun _ => rfl
      | cons c cs => exact fun h => if_neg (h c rfl)
    simp [readV4, hoctet, hdot]

/-! ### Groups -/

/-- One to four hexadecimal digits. -/
inductive SpellsGroup : List Char → Nat → Prop
  | mk {t : List Char} {n : Nat} : SpellsNumber Text.hexValue? 16 t n → t ≠ [] → t.length ≤ 4 →
    SpellsGroup t n

/-- Groups between colons. Where it is allowed, the last two may be written as octets. -/
inductive SpellsGroups (octets : Bool) : List Char → List Nat → Prop
  | last {t : List Char} {n : Nat} : SpellsGroup t n → SpellsGroups octets t [n]
  | dotted {t : List Char} {n : Nat} : octets = true → SpellsOctets t n →
    SpellsGroups octets t [n / 65536, n % 65536]
  | cons {t ts : List Char} {n : Nat} {ns : List Nat} : SpellsGroup t n → SpellsGroups octets ts ns →
    SpellsGroups octets (t ++ ':' :: ts) (n :: ns)

/-- Groups, or nothing, beside the zeros that are left out. -/
inductive SpellsSide (octets : Bool) : List Char → List Nat → Prop
  | none : SpellsSide octets [] []
  | some {t : List Char} {ns : List Nat} : SpellsGroups octets t ns → SpellsSide octets t ns

/-- What stands behind groups does not go on with a group. -/
inductive Stops : List Char → Prop
  | nil : Stops []
  | colons (rest : List Char) : Stops (':' :: ':' :: rest)

lemma SpellsGroup.dot_not_mem {t : List Char} {n : Nat} (h : SpellsGroup t n) : '.' ∉ t := by
  obtain ⟨h, -, -⟩ := h
  exact fun hdot => absurd (h.isSome_digit? hdot) (by decide)

lemma Stops.head {rest : List Char} (h : Stops rest) : ∀ c ∈ rest.head?, c = ':' := by
  cases h with
  | nil => exact fun c hc => nomatch hc
  | colons rest => exact fun c hc => (Option.some.inj hc).symm

lemma readDigitRun_group {t rest : List Char} {n : Nat} (h : SpellsGroup t n)
    (hrest : ∀ c ∈ rest.head?, c = ':') :
    readDigitRun Text.hexValue? 16 4 true (t ++ rest) = some (n, rest) := by
  obtain ⟨h, hne, hlength⟩ := h
  refine readDigitRun_append h hne hlength (.inl rfl) fun c hc => ?_
  rw [hrest c hc]
  rfl

/-- Nothing is read where no group goes on. -/
lemma readGroups_stops {rest : List Char} (h : Stops rest) (room : Nat) :
    readGroups room false rest = ⟨[], false, rest⟩ := by
  cases room with
  | zero => rfl
  | succ room =>
    cases h with
    | nil =>
      have hstart : readChar ':' [] = none := rfl
      simp [readGroups, hstart]
    | colons rest =>
      have hoctets : readV4 (':' :: rest) = none :=
        readV4_eq_none (t := []) (by simp) fun c hc => (Option.some.inj hc).symm
      have hdigits : readDigitRun Text.hexValue? 16 4 true (':' :: rest) = none := rfl
      have hstart : readChar ':' (':' :: ':' :: rest) = some (':' :: rest) := rfl
      simp [readGroups, hstart, hoctets, hdigits]

/-- The groups begin at once, or behind a colon. -/
lemma start_eq (first : Bool) (t rest : List Char) :
    (if first then some ((if first then t else ':' :: t) ++ rest)
      else readChar ':' ((if first then t else ':' :: t) ++ rest)) = some (t ++ rest) := by
  cases first <;> rfl

/-- Groups are read one after the other, in front of anything that does not go on with one. -/
lemma readGroups_append {octets : Bool} {t : List Char} {ns : List Nat} (h : SpellsGroups octets t ns)
    {rest : List Char} (hrest : Stops rest) {room : Nat} (hroom : ns.length ≤ room) (first : Bool) :
    ∃ embedded, (octets = false → embedded = false) ∧
      readGroups room first ((if first then t else ':' :: t) ++ rest) = ⟨ns, embedded, rest⟩ := by
  induction h generalizing room first with
  | @last t n hgroup =>
    obtain ⟨room, rfl⟩ := Nat.exists_eq_add_of_le' hroom
    refine ⟨false, fun _ => rfl, ?_⟩
    simp only [List.length_singleton, readGroups, start_eq, Option.bind_some]
    rw [readV4_eq_none hgroup.dot_not_mem hrest.head, ite_self, readDigitRun_group hgroup hrest.head]
    simp only [readGroups_stops hrest]
  | @dotted t n hoctets hdotted =>
    obtain ⟨room, rfl⟩ := Nat.exists_eq_add_of_le' hroom
    refine ⟨true, fun h => by simp [h] at hoctets, ?_⟩
    have hstop : ∀ c ∈ rest.head?, decimalDigit? c = none := by
      intro c hc
      rw [hrest.head c hc]
      rfl
    have hread := readV4_append hdotted hstop
    simp [readGroups, start_eq, hread]
  | @cons t ts n ns hgroup _ ih =>
    obtain ⟨room, rfl⟩ := Nat.exists_eq_add_of_le' hroom
    obtain ⟨embedded, hembedded, hmore⟩ := ih (Nat.le_add_left _ room) false
    have hcolon : ∀ c ∈ (':' :: (ts ++ rest)).head?, c = ':' := fun c hc => (Option.some.inj hc).symm
    refine ⟨embedded, hembedded, ?_⟩
    simp only [List.length_cons, ← Nat.add_assoc, readGroups, start_eq, Option.bind_some,
      List.append_assoc, List.cons_append]
    rw [readV4_eq_none hgroup.dot_not_mem hcolon, ite_self, readDigitRun_group hgroup hcolon]
    simp only [Bool.false_eq_true, if_false, List.cons_append] at hmore
    simp only [hmore]

/-- The groups before or behind the zeros that are left out. -/
lemma readGroups_side {octets : Bool} {t : List Char} {ns : List Nat} (h : SpellsSide octets t ns)
    {rest : List Char} (hrest : Stops rest) {room : Nat} (hroom : ns.length ≤ room) :
    ∃ embedded, (octets = false → embedded = false) ∧
      readGroups room true (t ++ rest) = ⟨ns, embedded, rest⟩ := by
  cases h with
  | some h => exact readGroups_append h hrest hroom true
  | none =>
    refine ⟨false, fun _ => rfl, ?_⟩
    cases room with
    | zero => rfl
    | succ room =>
      cases hrest with
      | nil => cases room <;> rfl
      | colons rest =>
        have hoctets : readV4 (':' :: ':' :: rest) = none :=
          readV4_eq_none (t := []) (by simp) fun c hc => (Option.some.inj hc).symm
        have hdigits : readDigitRun Text.hexValue? 16 4 true (':' :: ':' :: rest) = none := rfl
        simp [readGroups, hoctets, hdigits]

/-! ### Addresses -/

/-- The text is a written form of the address. -/
inductive Spells : List Char → Address → Prop
  | v4 {t : List Char} {n : Nat} : SpellsOctets t n → Spells t (.v4 (.ofNat 32 n))
  | full {t : List Char} {ns : List Nat} : SpellsGroups true t ns → ns.length = 8 →
    Spells t (.v6 (.ofNat 128 (joinGroups ns)))
  /-- At least one group of zeros is left out. -/
  | short {t t' : List Char} {ns ns' : List Nat} : SpellsSide false t ns → SpellsSide true t' ns' →
    ns.length + ns'.length ≤ 7 → Spells (t ++ ':' :: ':' :: t') (.v6 (.ofNat 128
      (joinGroups (ns ++ List.replicate (8 - ns.length - ns'.length) 0 ++ ns'))))

/-- Eight groups begin with one in front of a colon, which is no octet in front of a dot. -/
lemma readV4_of_groups {octets : Bool} {t : List Char} {ns : List Nat}
    (h : SpellsGroups octets t ns) (hlength : ns.length = 8) : readV4 t = none := by
  cases h with
  | last _ => simp at hlength
  | dotted _ _ => simp at hlength
  | cons hgroup _ => exact readV4_eq_none hgroup.dot_not_mem fun c hc => (Option.some.inj hc).symm

lemma readV4_of_side {t rest : List Char} {ns : List Nat} (h : SpellsSide false t ns) :
    readV4 (t ++ ':' :: rest) = none := by
  have hcolon (rest : List Char) : ∀ c ∈ (':' :: rest).head?, c = ':' :=
    fun c hc => (Option.some.inj hc).symm
  cases h with
  | none => exact readV4_eq_none (t := []) (by simp) (hcolon rest)
  | some h =>
    cases h with
    | last hgroup => exact readV4_eq_none hgroup.dot_not_mem (hcolon rest)
    | dotted hoctets _ => cases hoctets
    | cons hgroup _ =>
      rw [List.append_assoc]
      exact readV4_eq_none hgroup.dot_not_mem (hcolon _)

/-- Every spelling of an address is read as this address. -/
theorem ofText?_of_spells {t : List Char} {n : Address} (h : Spells t n) :
    Address.ofText? t = some n := by
  cases h with
  | v4 h =>
    have hend : ∀ c ∈ ([] : List Char).head?, decimalDigit? c = none := nofun
    have hread := readV4_append h hend
    rw [List.append_nil] at hread
    simp [Address.ofText?, hread]
  | @full t ns h hlength =>
    obtain ⟨embedded, -, hread⟩ := readGroups_append h .nil (Nat.le_of_eq hlength) true
    simp only [if_true, List.append_nil] at hread
    simp [Address.ofText?, readV4_of_groups h hlength, readV6, hread, hlength]
  | @short t t' ns ns' h h' hlength =>
    obtain ⟨embedded, hplain, hread⟩ :=
      readGroups_side h (.colons t') (Nat.le_trans (Nat.le_add_right _ _) (Nat.le_succ_of_le hlength))
    have hroom : ns'.length ≤ 7 - ns.length := by omega
    obtain ⟨embedded', -, hread'⟩ := readGroups_side h' .nil hroom
    rw [List.append_nil] at hread'
    have hshort : ns.length ≠ 8 := by omega
    simp [Address.ofText?, readV4_of_side h, readV6, hread, hshort, hplain rfl, readChar, hread']

/-! ### Every address has a spelling -/

lemma exists_spellsGroup {n : Nat} (hn : n < 65536) : ∃ t, SpellsGroup t n := by
  have hdigit (d : Nat) : Text.hexValue? (Nat.digitChar (d % 16)) = some (d % 16) := by
    have hall : ∀ d < 16, Text.hexValue? (Nat.digitChar d) = some d := by decide
    exact hall _ (Nat.mod_lt d (by decide))
  have hnil : SpellsNumber Text.hexValue? 16 [] 0 := .nil
  have h := (((hnil.snoc (hdigit (n / 4096))).snoc (hdigit (n / 256))).snoc (hdigit (n / 16))).snoc
    (hdigit n)
  have hvalue : (((0 * 16 + n / 4096 % 16) * 16 + n / 256 % 16) * 16 + n / 16 % 16) * 16 + n % 16 =
      n := by omega
  rw [hvalue] at h
  exact ⟨_, h, by simp, by simp⟩

lemma exists_spellsGroups (octets : Bool) {ns : List Nat} (hne : ns ≠ [])
    (hns : ∀ n ∈ ns, n < 65536) : ∃ t, SpellsGroups octets t ns := by
  induction ns with
  | nil => exact absurd rfl hne
  | cons n rest ih =>
    obtain ⟨t, ht⟩ := exists_spellsGroup (hns n (List.mem_cons_self ..))
    by_cases hrest : rest = []
    · rw [hrest]
      exact ⟨t, .last ht⟩
    · obtain ⟨ts, hts⟩ := ih hrest fun m hm => hns m (List.mem_cons_of_mem _ hm)
      exact ⟨_, .cons ht hts⟩

/-- The last groups of a number. -/
def lastGroups : Nat → Nat → List Nat
  | 0, _ => []
  | k + 1, n => lastGroups k (n / 65536) ++ [n % 65536]

lemma length_lastGroups (k n : Nat) : (lastGroups k n).length = k := by
  induction k generalizing n with
  | zero => rfl
  | succ k ih => rw [lastGroups, List.length_append, ih, List.length_singleton]

lemma lt_of_mem_lastGroups {k n g : Nat} (h : g ∈ lastGroups k n) : g < 65536 := by
  induction k generalizing n with
  | zero => cases h
  | succ k ih =>
    rcases List.mem_append.1 h with h | h
    · exact ih h
    · rw [List.mem_singleton.1 h]
      exact Nat.mod_lt n (by decide)

lemma joinGroups_lastGroups {k n : Nat} (hn : n < 65536 ^ k) : joinGroups (lastGroups k n) = n := by
  induction k generalizing n with
  | zero =>
    have hzero : n = 0 := by simpa using hn
    rw [hzero]
    rfl
  | succ k ih =>
    have hfirst : joinGroups (lastGroups k (n / 65536)) = n / 65536 :=
      ih (Nat.div_lt_of_lt_mul (by rwa [Nat.pow_succ, Nat.mul_comm] at hn))
    rw [joinGroups] at hfirst ⊢
    rw [lastGroups, List.foldl_append, hfirst, List.foldl_cons, List.foldl_nil]
    exact Nat.div_add_mod' n 65536

/-- Every address has a spelling. -/
theorem exists_spells (n : Address) : ∃ t, Spells t n := by
  cases n with
  | v4 bits =>
    have hbits := bits.isLt
    have h := SpellsOctets.mk (a := bits.toNat / 16777216) (b := bits.toNat / 65536 % 256)
      (c := bits.toNat / 256 % 256) (d := bits.toNat % 256) (by omega) (by omega) (by omega) (by omega)
    have hvalue : ((bits.toNat / 16777216 * 256 + bits.toNat / 65536 % 256) * 256 +
        bits.toNat / 256 % 256) * 256 + bits.toNat % 256 = bits.toNat := by omega
    rw [hvalue] at h
    have hspells := Spells.v4 h
    rw [BitVec.ofNat_toNat, BitVec.setWidth_eq] at hspells
    exact ⟨_, hspells⟩
  | v6 bits =>
    have hlength := length_lastGroups 8 bits.toNat
    obtain ⟨t, ht⟩ : ∃ t, SpellsGroups true t (lastGroups 8 bits.toNat) :=
      exists_spellsGroups true (List.ne_nil_of_length_pos (by omega)) fun _ => lt_of_mem_lastGroups
    have hspells := Spells.full ht hlength
    rw [joinGroups_lastGroups (by simpa using bits.isLt), BitVec.ofNat_toNat, BitVec.setWidth_eq] at hspells
    exact ⟨t, hspells⟩

/-! ### Characters of spellings -/

/-- A digit of either kind, or what stands between groups and octets. -/
def IsAddressChar (c : Char) : Prop :=
  (Text.hexValue? c).isSome = true ∨ c = '.' ∨ c = ':'

lemma IsAddressChar.plain {c : Char} (h : IsAddressChar c) :
    c ≠ '/' ∧ Text.isBlank c = false := by
  rcases h with h | rfl | rfl
  · have hall : ∀ k : Fin 103, (Text.hexValue? (Char.ofNat k)).isSome = true →
        Char.ofNat k ≠ '/' ∧ Text.isBlank (Char.ofNat k) = false := by decide
    have hlt : c.toNat < 103 := by
      unfold Text.hexValue? at h
      split_ifs at h with hdigit hsmall hcapital
      · simp only [Char.isDigit, Bool.and_eq_true, decide_eq_true_eq] at hdigit
        have hhigh : c.toNat ≤ 57 := hdigit.2
        omega
      · have hhigh : c.toNat ≤ 102 := hsmall.2
        omega
      · have hhigh : c.toNat ≤ 70 := hcapital.2
        omega
      · cases h
    have hc := hall ⟨c.toNat, hlt⟩
    rw [Char.ofNat_toNat] at hc
    exact hc h
  · decide
  · decide

lemma isAddressChar_of_isDigit {c : Char} (h : c.isDigit = true) : IsAddressChar c :=
  .inl (by rw [Text.hexValue?, if_pos h]; rfl)

lemma SpellsOctets.isAddressChar {t : List Char} {n : Nat} (h : SpellsOctets t n) :
    ∀ c ∈ t, IsAddressChar c := by
  have hdigit {n : Nat} {c : Char} (hc : c ∈ Text.decimal n) : IsAddressChar c :=
    isAddressChar_of_isDigit (Json.isDigit_of_mem_decimal hc)
  cases h with
  | mk _ _ _ _ =>
    have hdot : IsAddressChar '.' := .inr (.inl rfl)
    simp only [List.mem_append, List.mem_cons]
    rintro c (h | rfl | h | rfl | h | rfl | h)
    · exact hdigit h
    · exact hdot
    · exact hdigit h
    · exact hdot
    · exact hdigit h
    · exact hdot
    · exact hdigit h

lemma SpellsGroup.isAddressChar {t : List Char} {n : Nat} (h : SpellsGroup t n) :
    ∀ c ∈ t, IsAddressChar c := by
  obtain ⟨h, -, -⟩ := h
  exact fun c hc => .inl (h.isSome_digit? hc)

lemma SpellsGroups.isAddressChar {octets : Bool} {t : List Char} {ns : List Nat}
    (h : SpellsGroups octets t ns) : ∀ c ∈ t, IsAddressChar c := by
  induction h with
  | last h => exact h.isAddressChar
  | dotted _ h => exact h.isAddressChar
  | cons h _ ih =>
    simp only [List.mem_append, List.mem_cons]
    rintro c (hc | rfl | hc)
    · exact h.isAddressChar c hc
    · exact .inr (.inr rfl)
    · exact ih c hc

lemma SpellsSide.isAddressChar {octets : Bool} {t : List Char} {ns : List Nat}
    (h : SpellsSide octets t ns) : ∀ c ∈ t, IsAddressChar c := by
  cases h with
  | none => exact fun c hc => nomatch hc
  | some h => exact h.isAddressChar

lemma Spells.isAddressChar {t : List Char} {n : Address} (h : Spells t n) :
    ∀ c ∈ t, IsAddressChar c := by
  cases h with
  | v4 h => exact h.isAddressChar
  | full h _ => exact h.isAddressChar
  | short h h' _ =>
    simp only [List.mem_append, List.mem_cons]
    rintro c (hc | rfl | rfl | hc)
    · exact h.isAddressChar c hc
    · exact .inr (.inr rfl)
    · exact .inr (.inr rfl)
    · exact h'.isAddressChar c hc

end EventGateway.Net

import EventGateway.Proofs.Json.Skipping

/-!
# What texts and objects say

The characters between quotes spell a text, each character of it by itself, by a letter behind a
backslash, or by one or two escapes of four hexadecimal digits. An object lists members, each a key with
a value as it is written. Both are said of the grammar alone, whatever reads it.
-/

namespace EventGateway.Json

/-! ### Texts -/

/-- The letters behind a backslash and the characters that they stand for. -/
def escapes : List (Char × Char) :=
  [('"', '"'), ('\\', '\\'), ('/', '/'), ('b', '\x08'), ('f', '\x0c'), ('n', '\n'), ('r', '\r'),
    ('t', '\t')]

/-- The four hexadecimal digits of a number. -/
inductive IsHexNumber : Nat → List Char → Prop
  | mk {a b c d : Char} {i j k l : Nat} :
    Text.hexValue? a = some i → Text.hexValue? b = some j → Text.hexValue? c = some k →
    Text.hexValue? d = some l → IsHexNumber (((i * 16 + j) * 16 + k) * 16 + l) [a, b, c, d]

/-- The characters up to and with a closing quote spell the text. -/
inductive Spells : List Char → List Char → Prop
  | close : Spells ['"'] []
  | plain {c : Char} {cs text : List Char} :
    c ≠ '"' → c ≠ '\\' → 0x20 ≤ c.toNat → Spells cs text → Spells (c :: cs) (c :: text)
  | escape {letter c : Char} {cs text : List Char} :
    (letter, c) ∈ escapes → Spells cs text → Spells ('\\' :: letter :: cs) (c :: text)
  | unicode {n : Nat} {digits cs text : List Char} :
    IsHexNumber n digits → ¬ (0xd800 ≤ n ∧ n ≤ 0xdfff) → Spells cs text →
    Spells ('\\' :: 'u' :: (digits ++ cs)) (Char.ofNat n :: text)
  | pair {n m : Nat} {digits digits' cs text : List Char} :
    IsHexNumber n digits → 0xd800 ≤ n → n ≤ 0xdbff →
    IsHexNumber m digits' → 0xdc00 ≤ m → m ≤ 0xdfff → Spells cs text →
    Spells ('\\' :: 'u' :: (digits ++ '\\' :: 'u' :: (digits' ++ cs)))
      (Char.ofNat ((n - 0xd800) * 0x400 + (m - 0xdc00) + 0x10000) :: text)

lemma IsHexNumber.isQuoted {n : Nat} {digits cs : List Char} (h : IsHexNumber n digits)
    (hcs : IsQuoted cs) : IsQuoted ('\\' :: 'u' :: (digits ++ cs)) := by
  obtain ⟨ha, hb, hc, hd⟩ := h
  exact .unicode ((isHex_iff _).2 ⟨_, ha⟩) ((isHex_iff _).2 ⟨_, hb⟩) ((isHex_iff _).2 ⟨_, hc⟩)
    ((isHex_iff _).2 ⟨_, hd⟩) hcs

lemma Spells.isQuoted {cs text : List Char} (h : Spells cs text) : IsQuoted cs := by
  induction h with
  | close => exact .close
  | plain hquote hslash hcontrol _ ih => exact .plain hquote hslash hcontrol ih
  | escape hletter _ ih =>
    have hall : ∀ pair ∈ escapes, pair.1 ∈ ['"', '\\', '/', 'b', 'f', 'n', 'r', 't'] := by decide
    exact .escape (hall _ hletter) ih
  | unicode hn _ _ ih => exact hn.isQuoted ih
  | pair hn _ _ hm _ _ _ ih => exact hn.isQuoted (hm.isQuoted ih)

/-- The value is the text in quotes. -/
def IsText (s : String) (value : List Char) : Prop :=
  ∃ quoted, value = '"' :: quoted ∧ Spells quoted s.toList

/-! ### Objects -/

/-- The member of a key with a value as it is written. -/
inductive IsMember : String → List Char → List Char → Prop
  | mk {key : String} {blanks quoted between after value : List Char} :
    IsBlanks blanks → Spells quoted key.toList → IsBlanks between → IsBlanks after →
    Derives .value value →
    IsMember key value (blanks ++ '"' :: (quoted ++ (between ++ ':' :: (after ++ value))))

/-- The members of an object and its end. -/
inductive IsMembers : List (String × List Char) → List Char → Prop
  | last {key : String} {value cs blanks : List Char} :
    IsMember key value cs → IsBlanks blanks → IsMembers [(key, value)] (cs ++ (blanks ++ ['\x7d']))
  | more {key : String} {value cs blanks others : List Char} {members : List (String × List Char)} :
    IsMember key value cs → IsBlanks blanks → IsMembers members others →
    IsMembers ((key, value) :: members) (cs ++ (blanks ++ ',' :: others))

/-- The object with the members in their order. -/
inductive IsObject : List (String × List Char) → List Char → Prop
  | empty {blanks : List Char} : IsBlanks blanks → IsObject [] ('\x7b' :: (blanks ++ ['\x7d']))
  | members {members : List (String × List Char)} {cs : List Char} :
    IsMembers members cs → IsObject members ('\x7b' :: cs)

/-- The text is an object with the members, with nothing but blanks around it. -/
def IsObjectText (members : List (String × List Char)) (text : List Char) : Prop :=
  ∃ payload, IsJson text payload ∧ IsObject members payload

/-- Exactly one member has the key, and its value is as said. -/
def HasOnly (members : List (String × List Char)) (key : String) (P : List Char → Prop) : Prop :=
  ∃ value, members.filter (·.1 == key) = [(key, value)] ∧ P value

lemma IsBlanks.append {cs others : List Char} (h : IsBlanks cs) (h' : IsBlanks others) :
    IsBlanks (cs ++ others) := by
  intro c hc
  rcases List.mem_append.1 hc with hc | hc
  · exact h c hc
  · exact h' c hc

lemma IsMember.derives {key : String} {value cs : List Char} (h : IsMember key value cs) :
    Derives (.item .object) cs := by
  obtain ⟨hblanks, hkey, hbetween, hafter, hvalue⟩ := h
  exact .member hblanks hkey.isQuoted hbetween hafter hvalue

lemma IsMembers.derives {members : List (String × List Char)} {cs : List Char}
    (h : IsMembers members cs) : Derives (.items .object) cs := by
  induction h with
  | last hmember hblanks => exact @Derives.last .object _ _ hmember.derives hblanks
  | more hmember hblanks _ ih => exact .more hmember.derives hblanks ih

lemma IsObject.derives {members : List (String × List Char)} {value : List Char}
    (h : IsObject members value) : Derives .value value := by
  cases h with
  | empty hblanks => exact @Derives.empty .object _ hblanks
  | members hmembers => exact @Derives.container .object _ hmembers.derives

/-! ### Values inside objects -/

lemma IsMember.exists_colon {key : String} {value cs : List Char} (h : IsMember key value cs) :
    ∃ before after, cs = before ++ ':' :: (after ++ value) ∧ IsBlanks after := by
  cases h with
  | @mk blanks quoted between after _ _ _ _ hafter _ =>
    exact ⟨blanks ++ '"' :: (quoted ++ between), after, by simp, hafter⟩

lemma IsMembers.exists_colon {members : List (String × List Char)} {cs : List Char}
    (h : IsMembers members cs) {key : String} {value : List Char} (hmem : (key, value) ∈ members) :
    ∃ before after rest, cs = before ++ ':' :: (after ++ (value ++ rest)) ∧ IsBlanks after := by
  induction h with
  | @last _ _ _ blanks hmember _ =>
    cases List.mem_singleton.1 hmem
    obtain ⟨before, after, rfl, hafter⟩ := hmember.exists_colon
    exact ⟨before, after, blanks ++ ['\x7d'], by simp, hafter⟩
  | @more _ _ cs blanks others _ hmember _ _ ih =>
    rcases List.mem_cons.1 hmem with heq | hmem
    · cases heq
      obtain ⟨before, after, rfl, hafter⟩ := hmember.exists_colon
      exact ⟨before, after, blanks ++ ',' :: others, by simp, hafter⟩
    · obtain ⟨before, after, rest, rfl, hafter⟩ := ih hmem
      exact ⟨cs ++ (blanks ++ ',' :: before), after, rest, by simp, hafter⟩

/-- The value of a member stands in the text of its object behind a colon and blanks. -/
lemma IsObjectText.exists_colon {members : List (String × List Char)} {text : List Char}
    (h : IsObjectText members text) {key : String} {value : List Char}
    (hmem : (key, value) ∈ members) :
    ∃ before after rest, text = before ++ ':' :: (after ++ (value ++ rest)) ∧ IsBlanks after := by
  obtain ⟨payload, ⟨blanks, behind, rfl, -⟩, hobject⟩ := h
  cases hobject with
  | empty _ => cases hmem
  | members hmembers =>
    obtain ⟨before, after, rest, rfl, hafter⟩ := hmembers.exists_colon hmem
    exact ⟨blanks ++ '\x7b' :: before, after, rest ++ behind, by simp, hafter⟩

end EventGateway.Json

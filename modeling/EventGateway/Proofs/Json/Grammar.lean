import Mathlib.Tactic.Lemma

/-!
# The grammar of JSON

The texts of JSON values as the format defines them, whatever reads them. Values nest without a limit,
blanks may stand around every part, and an escape of four hexadecimal digits may stand for half of a
character.

What a container holds is a part of its own: one item, or all the items with the end of the container.
So the grammar is one relation between parts and texts, and an induction on it goes through values,
items and what follows them at once.
-/

namespace EventGateway.Json

/-! ### Blanks and texts -/

/-- The text has nothing but blanks. -/
def IsBlanks (cs : List Char) : Prop :=
  ∀ c ∈ cs, c ∈ [' ', '\n', '\t', '\r']

def IsHex (c : Char) : Prop :=
  c.isDigit ∨ 'a' ≤ c ∧ c ≤ 'f' ∨ 'A' ≤ c ∧ c ≤ 'F'

/-- The characters of a text up to and with its closing quote. -/
inductive IsQuoted : List Char → Prop
  | close : IsQuoted ['"']
  | plain {c : Char} {cs : List Char} :
    c ≠ '"' → c ≠ '\\' → 0x20 ≤ c.toNat → IsQuoted cs → IsQuoted (c :: cs)
  | escape {c : Char} {cs : List Char} :
    c ∈ ['"', '\\', '/', 'b', 'f', 'n', 'r', 't'] → IsQuoted cs → IsQuoted ('\\' :: c :: cs)
  | unicode {a b c d : Char} {cs : List Char} :
    IsHex a → IsHex b → IsHex c → IsHex d → IsQuoted cs → IsQuoted ('\\' :: 'u' :: a :: b :: c :: d :: cs)

/-! ### Numbers -/

def IsDigits (cs : List Char) : Prop :=
  ∀ c ∈ cs, c.isDigit = true

/-- The digits of a whole number, without leading zeros. -/
inductive IsWhole : List Char → Prop
  | zero : IsWhole ['0']
  | digits {d : Char} {ds : List Char} :
    d.isDigit = true → d ≠ '0' → IsDigits ds → IsWhole (d :: ds)

/-- A point with digits behind it, or nothing. -/
inductive IsFraction : List Char → Prop
  | none : IsFraction []
  | digits {d : Char} {ds : List Char} :
    d.isDigit = true → IsDigits ds → IsFraction ('.' :: d :: ds)

/-- The mark of an exponent with a sign, or none, and digits behind it, or nothing. -/
inductive IsExponent : List Char → Prop
  | none : IsExponent []
  | digits {mark d : Char} {sign ds : List Char} :
    mark ∈ ['e', 'E'] → sign ∈ [[], ['+'], ['-']] → d.isDigit = true → IsDigits ds →
    IsExponent (mark :: (sign ++ d :: ds))

/-- A number without its sign. -/
inductive IsNumber : List Char → Prop
  | mk {whole fraction exponent : List Char} :
    IsWhole whole → IsFraction fraction → IsExponent exponent →
    IsNumber (whole ++ (fraction ++ exponent))

/-! ### Values -/

inductive Container
  | array
  | object

namespace Container

def opening : Container → Char
  | array => '['
  | object => '\x7b'

def closing : Container → Char
  | array => ']'
  | object => '\x7d'

end Container

/-- What the grammar tells apart: a value, one item of a container, and the items of a container with
its end. -/
inductive Part
  | value
  | item (kind : Container)
  | items (kind : Container)

/-- The texts of a part. -/
inductive Derives : Part → List Char → Prop
  | null : Derives .value ['n', 'u', 'l', 'l']
  | true : Derives .value ['t', 'r', 'u', 'e']
  | false : Derives .value ['f', 'a', 'l', 's', 'e']
  | number {cs : List Char} : IsNumber cs → Derives .value cs
  | negative {cs : List Char} : IsNumber cs → Derives .value ('-' :: cs)
  | string {cs : List Char} : IsQuoted cs → Derives .value ('"' :: cs)
  | empty {kind : Container} {blanks : List Char} :
    IsBlanks blanks → Derives .value (kind.opening :: (blanks ++ [kind.closing]))
  | container {kind : Container} {cs : List Char} :
    Derives (.items kind) cs → Derives .value (kind.opening :: cs)
  | element {blanks cs : List Char} :
    IsBlanks blanks → Derives .value cs → Derives (.item .array) (blanks ++ cs)
  | member {blanks key between after cs : List Char} :
    IsBlanks blanks → IsQuoted key → IsBlanks between → IsBlanks after → Derives .value cs →
    Derives (.item .object) (blanks ++ '"' :: (key ++ (between ++ ':' :: (after ++ cs))))
  | last {kind : Container} {cs blanks : List Char} :
    Derives (.item kind) cs → IsBlanks blanks →
    Derives (.items kind) (cs ++ (blanks ++ [kind.closing]))
  | more {kind : Container} {cs blanks others : List Char} :
    Derives (.item kind) cs → IsBlanks blanks → Derives (.items kind) others →
    Derives (.items kind) (cs ++ (blanks ++ ',' :: others))

/-- The text is JSON: the payload, which is one value, with nothing but blanks around it. -/
def IsJson (text payload : List Char) : Prop :=
  ∃ before after, text = before ++ (payload ++ after) ∧ IsBlanks before ∧ IsBlanks after ∧
    Derives .value payload

/-! ### First characters -/

/-- The characters that a value can begin with. -/
def IsFirst (c : Char) : Prop :=
  c ∈ ['n', 't', 'f', '-', '"', '[', '\x7b'] ∨ c.isDigit = true

lemma isFirst_opening (kind : Container) : IsFirst kind.opening := by
  cases kind <;> exact .inl (by decide)

lemma IsWhole.exists_eq_cons {cs : List Char} (h : IsWhole cs) :
    ∃ d ds, cs = d :: ds ∧ d.isDigit = true := by
  cases h with
  | zero => exact ⟨_, _, rfl, rfl⟩
  | digits hd _ _ => exact ⟨_, _, rfl, hd⟩

lemma IsNumber.exists_eq_cons {cs : List Char} (h : IsNumber cs) :
    ∃ d ds, cs = d :: ds ∧ d.isDigit = true := by
  obtain ⟨hwhole, -, -⟩ := h
  obtain ⟨d, ds, rfl, hd⟩ := hwhole.exists_eq_cons
  exact ⟨d, _, rfl, hd⟩

lemma Derives.exists_eq_cons {cs : List Char} (h : Derives .value cs) :
    ∃ c rest, cs = c :: rest ∧ IsFirst c := by
  cases h with
  | null | true | false | negative | string => exact ⟨_, _, rfl, .inl (by decide)⟩
  | number h =>
    obtain ⟨d, ds, rfl, hd⟩ := h.exists_eq_cons
    exact ⟨d, ds, rfl, .inr hd⟩
  | empty | container => exact ⟨_, _, rfl, isFirst_opening _⟩

end EventGateway.Json

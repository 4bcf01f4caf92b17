import EventGateway.Proofs.Access.Outcomes
import EventGateway.Proofs.Text.Base64Url

/-!
# Restrictions as they are stored

The lists of netmasks and origins of a token are stored as texts, and a text that is no netmask is left
out when they are read. What the restrictions permit is told from the texts: a list that is stored is never
taken for an empty one, and a text that cannot be read refuses everybody. Main statement:
`restrictions_never_widen`.
-/

namespace EventGateway

open Net

namespace Restrictions

variable {netmasks origins : List String} {address : Option Address} {origin : Option String}

/-- What the stored lists leave room for. -/
structure Admits (netmasks origins : List String) (address : Option Address)
    (origin : Option String) : Prop where
  /-- Every netmask can be read. -/
  readable : ∀ s ∈ netmasks, ∃ mask, Netmask.ofText? s = some mask
  /-- The address is known and in one of the netmasks, if there are any. -/
  address : netmasks = [] ∨ ∃ a, address = some a ∧
    ∃ s ∈ netmasks, ∃ mask, Netmask.ofText? s = some mask ∧ mask.contains a = true
  /-- The origin is known and byte for byte one of the origins, if there are any. -/
  origin : origins = [] ∨ ∃ o, origin = some o ∧
    ∃ s ∈ origins, Text.utf8 s.toList = Text.utf8 o.toList

/-! ### Reading the lists -/

lemma readable_iff :
    (ofTexts netmasks origins).unparseable = false ↔
      ∀ s ∈ netmasks, ∃ mask, Netmask.ofText? s = some mask := by
  simp only [ofTexts, List.any_eq_false, Bool.not_eq_true, Option.isNone_eq_false_iff,
    Option.isSome_iff_exists]

/-- Where every netmask can be read none is left out. -/
lemma netmasks_eq_nil_iff (h : ∀ s ∈ netmasks, ∃ mask, Netmask.ofText? s = some mask) :
    (ofTexts netmasks origins).netmasks = [] ↔ netmasks = [] := by
  rw [ofTexts, List.filterMap_eq_nil_iff]
  constructor
  · intro hnone
    rw [List.eq_nil_iff_forall_not_mem]
    intro s hs
    obtain ⟨mask, hmask⟩ := h s hs
    rw [hnone s hs] at hmask
    cases hmask
  · rintro rfl s hs
    cases hs

lemma exists_contains_iff {a : Address} :
    (∃ mask ∈ (ofTexts netmasks origins).netmasks, mask.contains a = true) ↔
      ∃ s ∈ netmasks, ∃ mask, Netmask.ofText? s = some mask ∧ mask.contains a = true := by
  simp only [ofTexts, List.mem_filterMap]
  constructor
  · rintro ⟨mask, ⟨s, hs, hmask⟩, hcontains⟩
    exact ⟨s, hs, mask, hmask, hcontains⟩
  · rintro ⟨s, hs, mask, hmask, hcontains⟩
    exact ⟨mask, ⟨s, hs, hmask⟩, hcontains⟩

/-- Texts of the same bytes are the same. -/
lemma mem_origins_iff {o : String} :
    o ∈ origins ↔ ∃ s ∈ origins, Text.utf8 s.toList = Text.utf8 o.toList := by
  refine ⟨fun h => ⟨o, h, rfl⟩, ?_⟩
  rintro ⟨s, hs, hbytes⟩
  have hchars := congrArg Text.ofUtf8? hbytes
  rw [Text.ofUtf8?_utf8, Text.ofUtf8?_utf8, Option.some.injEq, String.toList_inj] at hchars
  exact hchars ▸ hs

/-! ### What is permitted -/

lemma permits_iff :
    (ofTexts netmasks origins).permits address origin = true ↔
      Admits netmasks origins address origin := by
  have hpermits : (ofTexts netmasks origins).permitsCaller ⟨address, origin⟩ = true ↔ _ :=
    permitsCaller_iff
  refine hpermits.trans ⟨fun h => ?_, fun h => ?_⟩
  · have hreadable := readable_iff.1 h.readable
    refine ⟨hreadable, ?_, ?_⟩
    · refine h.address.imp (netmasks_eq_nil_iff hreadable).1 ?_
      rintro ⟨a, mask, ha, hmask, hcontains⟩
      exact ⟨a, ha, exists_contains_iff.1 ⟨mask, hmask, hcontains⟩⟩
    · refine h.origin.imp id ?_
      rintro ⟨o, ho, hmem⟩
      exact ⟨o, ho, mem_origins_iff.1 hmem⟩
  · refine ⟨readable_iff.2 h.readable, ?_, ?_⟩
    · refine h.address.imp (netmasks_eq_nil_iff h.readable).2 ?_
      rintro ⟨a, ha, hcontains⟩
      have hread : ∃ mask ∈ (ofTexts netmasks origins).netmasks, mask.contains a = true :=
        exists_contains_iff.2 hcontains
      obtain ⟨mask, hmask, hcontains⟩ := hread
      exact ⟨a, mask, ha, hmask, hcontains⟩
    · refine h.origin.imp id ?_
      rintro ⟨o, ho, hbytes⟩
      exact ⟨o, ho, mem_origins_iff.2 hbytes⟩

/-- May a token be used from anywhere, known or not? -/
def IsUnrestricted (r : Restrictions) : Prop := ∀ address origin, r.permits address origin = true

/-- What stored lists permit: every netmask can be read, the address is known and in one of them, and the
origin is one of the origins, each of the last two if there are any. So a netmask that cannot be read
refuses every address, and only of empty lists a token becomes unrestricted, whatever is left out. -/
theorem restrictions_never_widen (netmasks origins : List String) :
    (∀ address origin, (ofTexts netmasks origins).permits address origin = true ↔
      Admits netmasks origins address origin) ∧
    ((∃ s ∈ netmasks, Netmask.ofText? s = none) →
      ∀ address origin, (ofTexts netmasks origins).permits address origin = false) ∧
    ((ofTexts netmasks origins).IsUnrestricted ↔ netmasks = [] ∧ origins = []) ∧
    ∀ row : TokenRow, row.netmasks = netmasks → row.origins = origins →
      ∀ caller, row.record.restrictions.permitsCaller caller = true ↔
        Admits netmasks origins caller.address caller.origin := by
  refine ⟨fun _ _ => permits_iff, ?_, ?_, ?_⟩
  · rintro ⟨s, hs, hnone⟩ address origin
    rw [← Bool.not_eq_true, permits_iff]
    intro h
    obtain ⟨mask, hmask⟩ := h.readable s hs
    rw [hnone] at hmask
    cases hmask
  · constructor
    · intro h
      have hnobody := permits_iff.1 (h none none)
      exact ⟨hnobody.address.resolve_right nofun, hnobody.origin.resolve_right nofun⟩
    · rintro ⟨rfl, rfl⟩ address origin
      exact permits_iff.2 ⟨nofun, .inl rfl, .inl rfl⟩
  · rintro row rfl rfl caller
    exact permits_iff

/-- One of the netmasks cannot be read, and the other one would contain the address. -/
theorem misspelled_netmask_refuses :
    (∃ s ∈ ["10.0.0.0/8", "10.0.0.0/33"], Netmask.ofText? s = none) ∧
      (ofTexts ["10.0.0.0/8", "10.0.0.0/33"] []).permits (some (.v4 0x0a010203#32)) none = false ∧
      ¬ (ofTexts ["10.0.0.0/33"] []).IsUnrestricted := by
  have hnone : ∃ s ∈ ["10.0.0.0/8", "10.0.0.0/33"], Netmask.ofText? s = none :=
    ⟨"10.0.0.0/33", by decide, by decide⟩
  refine ⟨hnone, (restrictions_never_widen _ []).2.1 hnone _ _, fun h => ?_⟩
  exact absurd ((restrictions_never_widen ["10.0.0.0/33"] []).2.2.1.1 h).1 (by decide)

end Restrictions

end EventGateway

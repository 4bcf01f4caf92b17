import EventGateway.Command.Message
import EventGateway.Proofs.Json.Embedded
import EventGateway.Proofs.Text.Bytes
import EventGateway.Room.Payload

/-!
# Which data gives rooms

The data of a command gives rooms exactly if it has the shape of lists of ids, one list for each kind at
most, and every id may be one of its kind. What fails is told by the first thing that is wrong: a key that
is no kind, then the shape, then the first id. Main statement: `rooms_given_iff`.
-/

namespace EventGateway

open Json

/-! ### Kinds and their names -/

namespace RoomKind

lemma ofText?_eq_some_iff {s : String} {kind : RoomKind} : ofText? s = some kind ↔ s = kind.text := by
  constructor
  · intro h
    have htext := List.find?_some h
    exact (beq_iff_eq.1 htext).symm
  · rintro rfl
    cases kind <;> decide

lemma ofText?_eq_none_iff {s : String} : ofText? s = none ↔ ∀ kind : RoomKind, s ≠ kind.text := by
  constructor
  · intro h kind heq
    rw [ofText?_eq_some_iff.2 heq] at h
    cases h
  · intro h
    cases hkind : ofText? s with
    | none => rfl
    | some kind => exact absurd (ofText?_eq_some_iff.1 hkind) (h kind)

lemma text_injective {a b : RoomKind} (h : a.text = b.text) : a = b := by
  have ha := ofText?_eq_some_iff.2 (rfl : a.text = a.text)
  rw [h, ofText?_eq_some_iff.2 rfl] at ha
  exact (Option.some.inj ha).symm

end RoomKind

/-! ### Lists of ids -/

namespace Json.Value

lemma asString_eq_ok_iff {v : Value} {s : String} : v.asString = .ok s ↔ v = .string s := by
  cases v <;> simp [asString]

lemma mapM_asString_eq_ok_iff {items : List Value} {ss : List String} :
    items.mapM asString = .ok ss ↔ items = ss.map .string := by
  induction items generalizing ss with
  | nil => cases ss <;> simp [pure, Except.pure]
  | cons v items ih =>
    rw [List.mapM_cons, bind_eq_ok]
    constructor
    · rintro ⟨s, hs, hrest⟩
      obtain ⟨others, hothers, heq⟩ := bind_eq_ok.1 hrest
      cases heq
      rw [asString_eq_ok_iff.1 hs, ih.1 hothers, List.map_cons]
    · intro h
      cases ss with
      | nil => cases h
      | cons s ss =>
        obtain ⟨hv, hitems⟩ := List.cons.inj h
        exact ⟨s, asString_eq_ok_iff.2 hv, bind_eq_ok.2 ⟨ss, ih.2 hitems, rfl⟩⟩

lemma asStrings_eq_ok_iff {v : Value} {ss : List String} : v.asStrings = .ok ss ↔ v = .ofStrings ss := by
  cases v with
  | array items => simp [asStrings, ofStrings, mapM_asString_eq_ok_iff]
  | _ => simp [asStrings, ofStrings]

end Json.Value

namespace RoomLists

variable {lists result : RoomLists} {members : List (String × Value)}

lemma ids_set (lists : RoomLists) (kind k : RoomKind) (ids : List String) :
    (lists.set kind ids).ids k = if k = kind then ids else lists.ids k := by
  cases kind <;> cases k <;> rfl

lemma ext_ids (h : ∀ kind, lists.ids kind = result.ids kind) : lists = result := by
  cases lists
  cases result
  have htimeline := h .timeline
  have hpost := h .post
  have huser := h .user
  have hglobal := h .global
  simp only [ids] at htimeline hpost huser hglobal
  simp only [htimeline, hpost, huser, hglobal]

/-- The lists are taken from the given members, and those that are not given stay. -/
structure Takes (lists : RoomLists) (members : List (String × Value)) (result : RoomLists) : Prop where
  given : ∀ kind v, members.lookup (RoomKind.text kind) = some v → v = .ofStrings (result.ids kind)
  kept : ∀ kind, members.lookup (RoomKind.text kind) = none → result.ids kind = lists.ids kind

/-- Members of different keys give lists exactly if every key is a kind and every value a list of ids. -/
lemma ofMembers_eq_ok_iff (h : (members.map Prod.fst).Nodup) : lists.ofMembers members = .ok result ↔
    (∀ m ∈ members, ∃ kind : RoomKind, m.1 = kind.text) ∧ lists.Takes members result := by
  induction members generalizing lists with
  | nil =>
    constructor
    · intro h
      cases h
      exact ⟨nofun, nofun, fun _ _ => rfl⟩
    · rintro ⟨-, htakes⟩
      rw [ofMembers, ext_ids fun kind => (htakes.kept kind rfl).symm]
  | cons m members ih =>
    obtain ⟨key, v⟩ := m
    obtain ⟨hkey, hnodup⟩ := List.nodup_cons.1 h
    have hlookup {kind : RoomKind} (hkind : key = kind.text) : members.lookup kind.text = none := by
      refine List.lookup_eq_none_iff.2 fun m hm => bne_iff_ne.2 fun heq => hkey ?_
      exact List.mem_map.2 ⟨m, hm, (hkind.trans heq).symm⟩
    rw [ofMembers]
    cases hkind : RoomKind.ofText? key with
    | none =>
      have hnone := RoomKind.ofText?_eq_none_iff.1 hkind
      simp only [reduceCtorEq, false_iff, not_and]
      intro hall
      obtain ⟨kind, hkind⟩ := hall _ (List.mem_cons_self ..)
      exact absurd hkind (hnone kind)
    | some kind =>
      have hname := RoomKind.ofText?_eq_some_iff.1 hkind
      rw [bind_eq_ok]
      constructor
      · rintro ⟨ids, hids, hrest⟩
        obtain ⟨hall, htakes⟩ := (ih hnodup).1 hrest
        have hown := htakes.kept kind (hlookup hname)
        rw [ids_set, if_pos rfl] at hown
        refine ⟨List.forall_mem_cons.2 ⟨⟨kind, hname⟩, hall⟩, fun k w hw => ?_, fun k hk => ?_⟩
        · rw [lookup_member] at hw
          split_ifs at hw with heq
          · cases hw
            rw [RoomKind.text_injective (heq.trans hname), hown]
            exact Value.asStrings_eq_ok_iff.1 hids
          · exact htakes.given k w hw
        · rw [lookup_member] at hk
          split_ifs at hk with heq
          have hne : k ≠ kind := fun h => heq (h ▸ hname.symm)
          rw [htakes.kept k hk, ids_set, if_neg hne]
      · rintro ⟨hall, htakes⟩
        have hv := htakes.given kind v (by rw [lookup_member, if_pos hname.symm])
        refine ⟨result.ids kind, Value.asStrings_eq_ok_iff.2 hv, (ih hnodup).2
          ⟨fun m hm => hall m (List.mem_cons_of_mem _ hm), fun k w hw => ?_, fun k hk => ?_⟩⟩
        · refine htakes.given k w ?_
          rw [lookup_member, if_neg fun heq => ?_]
          · exact hw
          · rw [heq, hname, hlookup hname] at hw
            cases hw
        · rw [ids_set]
          split_ifs with heq
          · rw [heq]
          · refine htakes.kept k ?_
            rw [lookup_member, if_neg fun h => heq (RoomKind.text_injective (h.trans hname))]
            exact hk

/-- Items stand for members of the names of their kinds. -/
lemma ofItems_eq (lists : RoomLists) (kinds : List RoomKind) (items : List Value) :
    lists.ofItems kinds items = lists.ofMembers ((kinds.map RoomKind.text).zip items) := by
  induction kinds generalizing lists items with
  | nil => rw [List.map_nil, List.zip_nil_left, ofMembers, ofItems.eq_def]
  | cons kind kinds ih =>
    cases items with
    | nil => rw [List.zip_nil_right, ofMembers, ofItems.eq_def]
    | cons v items =>
      rw [List.map_cons, List.zip_cons_cons, ofItems, ofMembers, RoomKind.ofText?_eq_some_iff.2 rfl]
      exact congrArg _ (funext fun ids => ih _ _)

end RoomLists

/-! ### Shape -/

namespace Room

/-- What the data gives for a kind: the member of its name, or the item at its place. -/
def given? (kind : RoomKind) : Value → Option Value
  | .object members => members.lookup kind.text
  | .array items => items[kind.rank]?
  | _ => none

/-- The data gives something for kinds and for nothing else. -/
def FitsKinds : Value → Prop
  | .object members => ∀ m ∈ members, ∃ kind : RoomKind, m.1 = kind.text
  | .array items => items.length ≤ RoomKind.all.length
  | _ => False

/-- The data has the shape of the lists: what is given for a kind is the array of its ids, and a kind for
which nothing is given has none. -/
structure Shaped (data : Value) (lists : RoomLists) : Prop where
  fits : FitsKinds data
  given : ∀ kind v, given? kind data = some v → v = .ofStrings (lists.ids kind)
  absent : ∀ kind, given? kind data = none → lists.ids kind = []

lemma ids_empty (kind : RoomKind) : ({} : RoomLists).ids kind = [] := by
  cases kind <;> rfl

lemma lookup_zip (kind : RoomKind) (items : List Value) :
    ((RoomKind.all.map RoomKind.text).zip items).lookup kind.text = items[kind.rank]? := by
  match items with
  | [] => cases kind <;> rfl
  | [_] => cases kind <;> rfl
  | [_, _] => cases kind <;> rfl
  | [_, _, _] => cases kind <;> rfl
  | _ :: _ :: _ :: _ :: _ => cases kind <;> rfl

lemma map_fst_zip_sublist (keys : List String) (items : List Value) :
    ((keys.zip items).map Prod.fst).Sublist keys := by
  induction keys generalizing items with
  | nil => exact .slnil
  | cons key keys ih =>
    cases items with
    | nil => exact List.nil_sublist _
    | cons v items => exact (ih items).cons_cons key

/-- Lists are taken from data exactly if it has their shape. -/
theorem ofValue_eq_ok_iff_shaped {data : Value} (h : data.Ordered) {lists : RoomLists} :
    RoomLists.ofValue data = .ok lists ↔ Shaped data lists := by
  cases data with
  | object members =>
    rw [RoomLists.ofValue, RoomLists.ofMembers_eq_ok_iff h.sorted.nodup_keys]
    constructor
    · rintro ⟨hkinds, hgiven, hkept⟩
      exact ⟨hkinds, hgiven, fun kind hkind => (hkept kind hkind).trans (ids_empty kind)⟩
    · rintro ⟨hkinds, hgiven, habsent⟩
      exact ⟨hkinds, hgiven, fun kind hkind => (habsent kind hkind).trans (ids_empty kind).symm⟩
  | array items =>
    have hzip := map_fst_zip_sublist (RoomKind.all.map RoomKind.text) items
    have hkinds : ∀ m ∈ (RoomKind.all.map RoomKind.text).zip items,
        ∃ kind : RoomKind, m.1 = kind.text := by
      intro m hm
      obtain ⟨kind, -, hkind⟩ := List.mem_map.1 (hzip.subset (List.mem_map_of_mem hm))
      exact ⟨kind, hkind.symm⟩
    have htaken : ({} : RoomLists).ofMembers ((RoomKind.all.map RoomKind.text).zip items) = .ok lists ↔
        _ := RoomLists.ofMembers_eq_ok_iff (List.Nodup.sublist hzip (by decide))
    rw [RoomLists.ofValue, RoomLists.ofItems_eq, bind_eq_ok]
    constructor
    · rintro ⟨taken, hmembers, hlength⟩
      split_ifs at hlength with hle
      cases hlength
      obtain ⟨-, hgiven, hkept⟩ := htaken.1 hmembers
      simp only [lookup_zip] at hgiven hkept
      exact ⟨hle, hgiven, fun kind hkind => (hkept kind hkind).trans (ids_empty kind)⟩
    · rintro ⟨hle, hgiven, habsent⟩
      refine ⟨lists, htaken.2 ⟨hkinds, fun kind v hv => ?_, fun kind hkind => ?_⟩, if_pos hle⟩
      · rw [lookup_zip] at hv
        exact hgiven kind v hv
      · rw [lookup_zip] at hkind
        exact (habsent kind hkind).trans (ids_empty kind).symm
  | _ =>
    constructor
    · nofun
    · rintro ⟨hfits, -, -⟩
      cases hfits

/-! ### Keys that are no kinds -/

/-- The data is an object with a member of the key, and the key is no kind. -/
def HasUnknown (data : Value) (key : String) : Prop :=
  ∃ members, data = .object members ∧ key ∈ members.map Prod.fst ∧ ∀ kind : RoomKind, key ≠ kind.text

/-- Of the keys that are no kinds, the one whose bytes come first. -/
def LeastUnknown (data : Value) (key : String) : Prop :=
  HasUnknown data key ∧ ∀ other, HasUnknown data other →
    other = key ∨ Text.utf8 key.toList < Text.utf8 other.toList

lemma LeastUnknown.unique {data : Value} {key other : String} (h : LeastUnknown data key)
    (h' : LeastUnknown data other) : key = other := by
  rcases h.2 other h'.1 with heq | hlt
  · exact heq.symm
  · rcases h'.2 key h.1 with heq | hlt'
    · exact heq
    · exact absurd (Text.utf8_lt_iff.1 hlt') (String.lt_asymm (Text.utf8_lt_iff.1 hlt))

lemma unknownKind?_eq_none_iff {data : Value} :
    unknownKind? data = none ↔ ∀ key, ¬ HasUnknown data key := by
  cases data with
  | object members =>
    simp only [unknownKind?, List.find?_eq_none, Option.isNone_iff_eq_none, HasUnknown,
      RoomKind.ofText?_eq_none_iff, Value.object.injEq, exists_eq_left', not_and]
  | _ => simp [unknownKind?, HasUnknown]

lemma leastUnknown_of_unknownKind? {data : Value} (h : data.Ordered) {key : String}
    (hkey : unknownKind? data = some key) : LeastUnknown data key := by
  cases data with
  | object members =>
    obtain ⟨hnone, before, after, hkeys, hbefore⟩ := List.find?_eq_some_iff_append.1 hkey
    have hunknown := RoomKind.ofText?_eq_none_iff.1 (Option.isNone_iff_eq_none.1 hnone)
    have hsorted : (members.map Prod.fst).Pairwise (· < ·) := List.pairwise_map.2 h.sorted
    refine ⟨⟨members, rfl, by simp [hkeys], hunknown⟩, ?_⟩
    rintro other ⟨others, hothers, hmem, hother⟩
    cases hothers
    rw [hkeys] at hmem hsorted
    rcases List.mem_append.1 hmem with hmem | hmem
    · have hsome := hbefore other hmem
      rw [RoomKind.ofText?_eq_none_iff.2 hother] at hsome
      cases hsome
    · rcases List.mem_cons.1 hmem with heq | hmem
      · exact .inl heq
      · have hbehind := (List.pairwise_append.1 hsorted).2.1
        exact .inr (Text.utf8_lt_iff.2 ((List.pairwise_cons.1 hbehind).1 other hmem))
  | _ => cases hkey

lemma unknownKind?_eq_some_iff {data : Value} (h : data.Ordered) {key : String} :
    unknownKind? data = some key ↔ LeastUnknown data key := by
  refine ⟨leastUnknown_of_unknownKind? h, fun hleast => ?_⟩
  cases hfound : unknownKind? data with
  | none => exact absurd hleast.1 (unknownKind?_eq_none_iff.1 hfound key)
  | some other => rw [(leastUnknown_of_unknownKind? h hfound).unique hleast]

/-! ### Rooms that may be named -/

/-- A command may name the room. -/
def IsValid (room : Room) : Prop :=
  room.id ≠ "" ∧ (room.kind = .global → room.id = globalUsersId)

instance (room : Room) : Decidable room.IsValid :=
  inferInstanceAs (Decidable (_ ∧ _))

/-- The first of the rooms that no command may name. -/
def FirstInvalid (rooms : List Room) (room : Room) : Prop :=
  ∃ before after, rooms = before ++ room :: after ∧ (∀ r ∈ before, r.IsValid) ∧ ¬ room.IsValid

lemma ofId_eq (kind : RoomKind) (id : String) : ofId kind id =
    if IsValid ⟨kind, id⟩ then .ok ⟨kind, id⟩ else .error (.invalidRoom (text ⟨kind, id⟩)) := by
  have hvalid : IsValid ⟨kind, id⟩ ↔ ¬ (id.isEmpty ∨ (kind = .global ∧ id ≠ globalUsersId)) := by
    rw [not_or, not_and, not_not, String.isEmpty_iff]
    rfl
  by_cases h : id.isEmpty ∨ (kind = .global ∧ id ≠ globalUsersId)
  · rw [ofId, if_pos h, if_neg fun h' => hvalid.1 h' h]
  · rw [ofId, if_neg h, if_pos (hvalid.2 h)]

lemma mapM_ofId_eq_ok_iff {rooms result : List Room} :
    rooms.mapM (fun room => ofId room.kind room.id) = .ok result ↔
      result = rooms ∧ ∀ room ∈ rooms, room.IsValid := by
  induction rooms generalizing result with
  | nil =>
    rw [List.mapM_nil]
    exact ⟨fun h => ⟨(Except.ok.inj h).symm, nofun⟩, fun h => congrArg Except.ok h.1.symm⟩
  | cons r rooms ih =>
    rw [List.mapM_cons, ofId_eq, bind_eq_ok]
    constructor
    · rintro ⟨checked, hchecked, h⟩
      split_ifs at hchecked with hr
      cases hchecked
      obtain ⟨others, hothers, h⟩ := bind_eq_ok.1 h
      cases h
      obtain ⟨rfl, hvalid⟩ := ih.1 hothers
      exact ⟨rfl, List.forall_mem_cons.2 ⟨hr, hvalid⟩⟩
    · rintro ⟨rfl, hvalid⟩
      obtain ⟨hr, hvalid⟩ := List.forall_mem_cons.1 hvalid
      exact ⟨r, if_pos hr, bind_eq_ok.2 ⟨rooms, ih.2 ⟨rfl, hvalid⟩, rfl⟩⟩

end Room

/-- The rooms of the lists, by kind and for each kind in the order of its ids. -/
def RoomLists.rooms (lists : RoomLists) : List Room :=
  RoomKind.all.flatMap fun kind => (lists.ids kind).map (Room.mk kind)

namespace Room

lemma mapM_flatMap {α β γ ε : Type} (xs : List α) (f : α → List β) (g : β → Except ε γ) :
    (xs.flatMap f).mapM g = (xs.mapM fun x => (f x).mapM g) >>= fun rows => .ok rows.flatten := by
  induction xs with
  | nil => rfl
  | cons x xs ih =>
    rw [List.flatMap_cons, List.mapM_append, List.mapM_cons, ih]
    cases (f x).mapM g with
    | error e => rfl
    | ok row => cases xs.mapM fun x => (f x).mapM g <;> rfl

lemma ofLists_eq (lists : RoomLists) :
    ofLists lists = lists.rooms.mapM fun room => ofId room.kind room.id := by
  simp only [RoomLists.rooms, mapM_flatMap, List.mapM_map]
  rfl

/-! ### What data gives -/

section

variable {data : Value} (h : data.Ordered)

include h

lemma ofValue_of_leastUnknown {key : String} (hkey : LeastUnknown data key) :
    ofValue data = .error (.unknownRoomKind key) := by
  rw [ofValue, (unknownKind?_eq_some_iff h).2 hkey]

lemma ofValue_of_not_shaped (hknown : ∀ key, ¬ HasUnknown data key)
    (hshape : ∀ lists, ¬ Shaped data lists) : ∃ detail, ofValue data = .error (.malformed detail) := by
  rw [ofValue, unknownKind?_eq_none_iff.2 hknown]
  cases hlists : RoomLists.ofValue data with
  | error mismatch => exact ⟨_, rfl⟩
  | ok lists => exact absurd ((ofValue_eq_ok_iff_shaped h).1 hlists) (hshape lists)

lemma ofValue_of_shaped {lists : RoomLists} (hshape : Shaped data lists) :
    ofValue data = lists.rooms.mapM fun room => ofId room.kind room.id := by
  have hknown : ∀ key, ¬ HasUnknown data key := by
    rintro key ⟨members, rfl, hmem, hkey⟩
    obtain ⟨m, hm, rfl⟩ := List.mem_map.1 hmem
    obtain ⟨kind, hkind⟩ := hshape.fits m hm
    exact hkey kind hkind
  rw [ofValue, unknownKind?_eq_none_iff.2 hknown, (ofValue_eq_ok_iff_shaped h).2 hshape]
  exact ofLists_eq lists

/-- Data has a key that is no kind, or has not the shape of lists, or has that of the rooms' lists. -/
lemma unknown_or_not_shaped_or_shaped : (∃ key, LeastUnknown data key) ∨
    ((∀ key, ¬ HasUnknown data key) ∧ ∀ lists, ¬ Shaped data lists) ∨ ∃ lists, Shaped data lists := by
  cases hunknown : unknownKind? data with
  | some key => exact .inl ⟨key, (unknownKind?_eq_some_iff h).1 hunknown⟩
  | none =>
    by_cases hshape : ∃ lists, Shaped data lists
    · exact .inr (.inr hshape)
    · exact .inr (.inl ⟨unknownKind?_eq_none_iff.1 hunknown, not_exists.1 hshape⟩)

lemma ofValue_eq_ok_iff {rooms : List Room} : ofValue data = .ok rooms ↔
    ∃ lists, Shaped data lists ∧ (∀ room ∈ lists.rooms, room.IsValid) ∧ rooms = lists.rooms := by
  constructor
  · intro hok
    rcases unknown_or_not_shaped_or_shaped h with ⟨key, hkey⟩ | ⟨hknown, hshape⟩ | ⟨lists, hshape⟩
    · rw [ofValue_of_leastUnknown h hkey] at hok
      cases hok
    · obtain ⟨detail, hdetail⟩ := ofValue_of_not_shaped h hknown hshape
      rw [hdetail] at hok
      cases hok
    · rw [ofValue_of_shaped h hshape] at hok
      obtain ⟨rfl, hvalid⟩ := mapM_ofId_eq_ok_iff.1 hok
      exact ⟨lists, hshape, hvalid, rfl⟩
  · rintro ⟨lists, hshape, hvalid, rfl⟩
    rw [ofValue_of_shaped h hshape]
    exact mapM_ofId_eq_ok_iff.2 ⟨rfl, hvalid⟩

/-- Why data gives no rooms. -/
inductive Refuses (data : Value) : CommandError → Prop
  | unknown {key : String} : LeastUnknown data key → Refuses data (.unknownRoomKind key)
  | malformed (detail : String) : (∀ key, ¬ HasUnknown data key) → (∀ lists, ¬ Shaped data lists) →
    Refuses data (.malformed detail)
  | invalid {lists : RoomLists} {room : Room} : Shaped data lists → FirstInvalid lists.rooms room →
    Refuses data (.invalidRoom room.text)

end

end Room

/-- The data of a message that is read is in order. -/
theorem ClientMessage.ordered_data {text : String} {m : ClientMessage} (h : ofText text = .ok m) :
    m.data.Ordered := by
  have hfield : ∀ field ∈ shape.fields, ∀ s cs t rest, field.read s cs = .ok (t, rest) →
      (∀ v, s.data = some v → v.Ordered) → ∀ v, t.data = some v → v.Ordered := by
    intro field hfield s cs t rest hread hs
    simp only [shape, List.mem_cons, List.not_mem_nil, or_false] at hfield
    rcases hfield with rfl | rfl | rfl
    · obtain ⟨p, -, heq⟩ := map_eq_ok.1 hread
      cases heq
      exact hs
    · obtain ⟨p, -, heq⟩ := map_eq_ok.1 hread
      cases heq
      exact hs
    · obtain ⟨p, hvalue, heq⟩ := map_eq_ok.1 hread
      cases heq
      intro v hv
      cases hv
      exact ordered_of_readExpanded hvalue
  obtain ⟨rest, hread, -⟩ := readText_eq_ok.1 h
  obtain ⟨s, hs, hfinish⟩ := exists_of_read (fun v hv => nomatch hv) hfield hread
  simp only [shape] at hfinish
  split at hfinish
  · cases hfinish
    cases hdata : s.data with
    | none => exact .null
    | some v => exact hs v hdata
  · cases hfinish

end EventGateway

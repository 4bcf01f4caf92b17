import EventGateway.Proofs.Visibility.Specification

/-!
# Tightening

Decisions are ordered by how much of an event is delivered. When something is made private, protected or
restricted, when somebody is banned, a subscription ends or a post is removed, nobody gets more of any
event than before. And whoever is somebody, and has no part in a ban, gets at least what nobody gets.
Main statements: `Content.TightensTo.calledFor_le` and `tightening_never_widens`.
-/

namespace EventGateway

/-! ### The order of decisions -/

namespace Decision

/-- How much of an event is delivered. -/
def rank : Decision → Nat
  | .deny => 0
  | .allowRedacted => 1
  | .allow => 2

instance : LE Decision := ⟨fun d d' => d.rank ≤ d'.rank⟩

instance : LT Decision := ⟨fun d d' => d.rank < d'.rank⟩

instance (d d' : Decision) : Decidable (d ≤ d') := Nat.decLe d.rank d'.rank

instance (d d' : Decision) : Decidable (d < d') := Nat.decLt d.rank d'.rank

example : deny < allowRedacted ∧ allowRedacted < allow := by decide

@[refl] protected lemma le_refl (d : Decision) : d ≤ d := Nat.le_refl d.rank

lemma deny_le (d : Decision) : deny ≤ d := Nat.zero_le d.rank

lemma le_allow (d : Decision) : d ≤ allow := by
  cases d <;> decide

lemma allowIf_mono {b b' : Bool} (h : b = true → b' = true) : allowIf b ≤ allowIf b' := by
  cases b with
  | false => exact deny_le _
  | true => rw [h rfl]

end Decision

namespace Content

/-! ### What a decision depends on -/

variable {c c' : Content} {viewer viewer' : Option String} {e : Event}

/-- A decision grows with what is visible, and with what is about the viewer, and shrinks with bans and
with comments that are hidden for them. -/
lemma calledFor_mono
    (hvisible : c.Visible viewer e.refs.actorId e.refs.feedIds →
      c'.Visible viewer' e.refs.actorId e.refs.feedIds)
    (hpost : c.PostVisible viewer e.refs.postId → c'.PostVisible viewer' e.refs.postId)
    (hconcerns : e.refs.Concerns viewer → e.refs.Concerns viewer')
    (hbans : c'.Bans viewer' e.refs.actorId → c.Bans viewer e.refs.actorId)
    (hhides : c'.Bans viewer' e.refs.actorId → c'.Hides viewer' → c.Hides viewer) :
    c.calledFor viewer e ≤ c'.calledFor viewer' e := by
  have hallow {P P' : Prop} [Decidable P] [Decidable P'] (h : P → P') :
      Decision.allowIf P ≤ .allowIf P' := Decision.allowIf_mono (by simpa using h)
  unfold calledFor
  cases e.name with
  | postNew | postUpdate | commentDestroy => exact hallow hpost
  | postDestroy => exact hallow hvisible
  | postHide | postUnhide | postSave | postUnsave => exact hallow (And.imp hconcerns hpost)
  | commentNew | commentUpdate =>
    dsimp only
    by_cases hv : c.PostVisible viewer e.refs.postId
    · rw [if_neg (not_not_intro hv), if_neg (not_not_intro (hpost hv))]
      by_cases hban : c'.Bans viewer' e.refs.actorId
      · rw [if_neg (not_not_intro hban), if_neg (not_not_intro (hbans hban))]
        by_cases hh : c'.Hides viewer'
        · rw [if_pos hh, if_pos (hhides hban hh)]
        · rw [if_neg hh]
          split
          · exact Decision.deny_le _
          · exact Decision.le_refl _
      · rw [if_pos hban]
        exact Decision.le_allow _
    · rw [if_pos hv]
      exact Decision.deny_le _
  | likeNew | likeRemove | commentLikeNew | commentLikeRemove => exact hallow (And.imp hpost (mt hbans))
  | userUpdate | eventNew => exact hallow hconcerns
  | globalUserUpdate | groupTimesUpdate => exact Decision.le_refl _

end Content

/-! ### Changes that tighten -/

/-- The change takes something away from viewers, and gives nobody anything. -/
inductive ContentUpdate.Tightens : ContentUpdate → Prop
  | setPrivate (id : String) : Tightens (.setPrivate id true)
  | setProtected (id : String) : Tightens (.setProtected id true)
  | setRestricted (id : String) : Tightens (.setRestricted id true)
  | setHidesBannedComments (id : String) : Tightens (.setHidesBannedComments id true)
  | ban (user banned : String) : Tightens (.ban user banned)
  | unsubscribe (subscriber owner : String) : Tightens (.unsubscribe subscriber owner)
  | removePost (id : String) : Tightens (.removePost id)

/-- The other account is the same or more withdrawn. -/
structure Account.TightensTo (account tighter : Account) : Prop where
  isGroup : tighter.isGroup = account.isGroup
  isPrivate : account.isPrivate → tighter.isPrivate
  isProtected : account.isProtected → tighter.isProtected
  isRestricted : account.isRestricted → tighter.isRestricted
  hidesBannedComments : account.hidesBannedComments → tighter.hidesBannedComments

namespace Account.TightensTo

variable {a a' a'' : Account}

lemma refl (a : Account) : a.TightensTo a := ⟨rfl, id, id, id, id⟩

lemma trans (h : a.TightensTo a') (h' : a'.TightensTo a'') : a.TightensTo a'' :=
  ⟨h'.1.trans h.1, h'.2 ∘ h.2, h'.3 ∘ h.3, h'.4 ∘ h.4, h'.5 ∘ h.5⟩

lemma membersOnly (h : a.TightensTo a') (ha : a.MembersOnly) : a'.MembersOnly := by
  obtain hprivate | ⟨hgroup, hrestricted⟩ := ha
  · exact .inl (h.isPrivate hprivate)
  · refine .inr ⟨?_, h.isRestricted hrestricted⟩
    rw [h.isGroup]
    exact hgroup

end Account.TightensTo

namespace Content

/-- In the other content there are the same accounts and feeds, and no more that anybody may see. -/
structure TightensTo (c c' : Content) : Prop where
  feeds : c'.feeds = c.feeds
  accounts : ∀ id, Option.Rel Account.TightensTo (c.accounts.get? id) (c'.accounts.get? id)
  posts : ∀ id post, c'.posts.get? id = some post → c.posts.get? id = some post
  subscriptions : c'.subscriptions ⊆ c.subscriptions
  bans : c.bans ⊆ c'.bans

namespace TightensTo

variable {c c' c'' : Content} {viewer : Option String}

lemma refl (c : Content) : c.TightensTo c where
  feeds := rfl
  accounts id := by
    cases c.accounts.get? id with
    | none => exact .none
    | some account => exact .some (.refl account)
  posts _ _ h := h
  subscriptions := List.Subset.refl _
  bans := List.Subset.refl _

lemma trans (h : c.TightensTo c') (h' : c'.TightensTo c'') : c.TightensTo c'' where
  feeds := h'.feeds.trans h.feeds
  accounts id := by
    have hfirst := h.accounts id
    have hsecond := h'.accounts id
    revert hfirst hsecond
    generalize c.accounts.get? id = a
    generalize c'.accounts.get? id = a'
    generalize c''.accounts.get? id = a''
    intro hfirst hsecond
    cases hfirst with
    | none =>
      cases hsecond
      exact .none
    | some h =>
      cases hsecond with
      | some h' => exact .some (h.trans h')
  posts id post hpost := h.posts id post (h'.posts id post hpost)
  subscriptions := List.Subset.trans h'.subscriptions h.subscriptions
  bans := List.Subset.trans h.bans h'.bans

/-! ### Steps and runs of changes -/

lemma updateAccount (c : Content) (id : String) {f : Account → Account}
    (hf : ∀ a : Account, a.TightensTo (f a)) : c.TightensTo (c.updateAccount id f) where
  feeds := rfl
  accounts i := by
    simp only [Content.updateAccount, Dictionary.get?_modify]
    cases c.accounts.get? i with
    | none =>
      split
      · exact .none
      · exact .none
    | some account =>
      split
      · exact .some (hf account)
      · exact .some (.refl account)
  posts _ _ h := h
  subscriptions := List.Subset.refl _
  bans := List.Subset.refl _

lemma update {u : ContentUpdate} (hu : u.Tightens) (c : Content) : c.TightensTo (c.update u) := by
  cases hu with
  | setPrivate i =>
    exact updateAccount c i fun a => { Account.TightensTo.refl a with isPrivate := fun _ => rfl }
  | setProtected i =>
    exact updateAccount c i fun a => { Account.TightensTo.refl a with isProtected := fun _ => rfl }
  | setRestricted i =>
    exact updateAccount c i fun a => { Account.TightensTo.refl a with isRestricted := fun _ => rfl }
  | setHidesBannedComments i =>
    exact updateAccount c i fun a => { Account.TightensTo.refl a with hidesBannedComments := fun _ => rfl }
  | ban user banned =>
    refine { refl c with bans := ?_ }
    intro pair hpair
    exact List.mem_insert_of_mem hpair
  | unsubscribe subscriber owner =>
    refine { refl c with subscriptions := ?_ }
    intro pair hpair
    exact (List.mem_filter.1 hpair).1
  | removePost id =>
    refine { refl c with posts := ?_ }
    intro i post hpost
    simp only [Content.update, Dictionary.get?_erase] at hpost
    split at hpost
    · cases hpost
    · exact hpost

lemma updates {us : List ContentUpdate} (hus : ∀ u ∈ us, u.Tightens) (c : Content) :
    c.TightensTo (us.foldl Content.update c) := by
  induction us generalizing c with
  | nil => exact refl c
  | cons u rest ih =>
    have hfirst := update (hus u (List.mem_cons_self ..)) c
    exact hfirst.trans (ih (fun v hv => hus v (List.mem_cons_of_mem _ hv)) (c.update u))

/-! ### What is visible afterwards -/

lemma exists_account (h : c.TightensTo c') {id : String} {account : Account}
    (ha : c.accounts.get? id = some account) :
    ∃ tighter, c'.accounts.get? id = some tighter ∧ account.TightensTo tighter := by
  have hrel := h.accounts id
  rw [ha] at hrel
  generalize c'.accounts.get? id = a' at hrel
  cases hrel with
  | some htightens => exact ⟨_, rfl, htightens⟩

lemma exists_account_before (h : c.TightensTo c') {id : String} {tighter : Account}
    (ha : c'.accounts.get? id = some tighter) :
    ∃ account, c.accounts.get? id = some account ∧ account.TightensTo tighter := by
  have hrel := h.accounts id
  rw [ha] at hrel
  generalize c.accounts.get? id = a at hrel
  cases hrel with
  | some htightens => exact ⟨_, rfl, htightens⟩

/-- A feed that is open to the viewer in spite of the changes was open before. A feed that becomes one
for members only stays open to those who are subscribed already. -/
lemma opens (h : c.TightensTo c') {feed : Feed} {owner tighter : Account}
    (howner : owner.TightensTo tighter) (hopens : c'.Opens viewer feed tighter) :
    c.Opens viewer feed owner := by
  unfold Opens at hopens ⊢
  split
  · next hdirects => rwa [if_pos hdirects] at hopens
  · next hdirects =>
    rw [if_neg hdirects] at hopens
    obtain hown | ⟨-, v, hv, hsubscribed⟩ | ⟨hmembers, -, hsome⟩ | ⟨hmembers, hprotected⟩ := hopens
    · exact .inl hown
    · by_cases hmembers : owner.MembersOnly
      · exact .inr (.inl ⟨hmembers, v, hv, h.subscriptions hsubscribed⟩)
      · by_cases hprotected : owner.isProtected
        · exact .inr (.inr (.inl ⟨hmembers, hprotected, Option.isSome_of_mem hv⟩))
        · exact .inr (.inr (.inr ⟨hmembers, hprotected⟩))
    · by_cases hprotected : owner.isProtected
      · exact .inr (.inr (.inl ⟨mt howner.membersOnly hmembers, hprotected, hsome⟩))
      · exact .inr (.inr (.inr ⟨mt howner.membersOnly hmembers, hprotected⟩))
    · exact .inr (.inr (.inr ⟨mt howner.membersOnly hmembers, mt howner.isProtected hprotected⟩))

lemma feedOpen (h : c.TightensTo c') {id : String} (hopen : c'.FeedOpen viewer id) :
    c.FeedOpen viewer id := by
  obtain ⟨feed, hfeed, tighter, htighter, hopens⟩ := hopen
  rw [h.feeds] at hfeed
  obtain ⟨owner, howner, htightens⟩ := h.exists_account_before htighter
  exact ⟨feed, hfeed, owner, howner, h.opens htightens hopens⟩

lemma visible (h : c.TightensTo c') {author : Option String} {feeds : List String}
    (hvisible : c'.Visible viewer author feeds) : c.Visible viewer author feeds := by
  obtain hown | ⟨⟨id, hid, hopen⟩, hunbanned⟩ := hvisible
  · exact .inl hown
  · refine .inr ⟨⟨id, hid, h.feedOpen hopen⟩, ?_⟩
    intro v hv other hother
    obtain ⟨hbans, hbanned⟩ := hunbanned v hv other hother
    exact ⟨fun hmem => hbans (h.bans hmem), fun hmem => hbanned (h.bans hmem)⟩

lemma postVisible (h : c.TightensTo c') {postId : Option String}
    (hvisible : c'.PostVisible viewer postId) : c.PostVisible viewer postId := by
  obtain ⟨id, hid, post, hpost, hvisible⟩ := hvisible
  exact ⟨id, hid, post, h.posts id post hpost, h.visible hvisible⟩

lemma bans_of_bans (h : c.TightensTo c') {actor : Option String} (hbans : c.Bans viewer actor) :
    c'.Bans viewer actor := by
  obtain ⟨v, hv, a, ha, hne, hmem⟩ := hbans
  exact ⟨v, hv, a, ha, hne, h.bans hmem⟩

lemma hides (h : c.TightensTo c') (hhides : c.Hides viewer) : c'.Hides viewer := by
  obtain ⟨v, hv, account, haccount, hhides⟩ := hhides
  obtain ⟨tighter, htighter, htightens⟩ := h.exists_account haccount
  exact ⟨v, hv, tighter, htighter, htightens.hidesBannedComments hhides⟩

/-- Nobody gets more of an event. -/
theorem calledFor_le (h : c.TightensTo c') (viewer : Option String) (e : Event) :
    c'.calledFor viewer e ≤ c.calledFor viewer e :=
  calledFor_mono h.visible h.postVisible id h.bans_of_bans fun _ => h.hides

end TightensTo

/-! ### What nobody may see -/

/-- The user wrote the post of the event, or acted in the event. -/
def Involves (c : Content) (e : Event) (user : String) : Prop :=
  e.refs.actorId = some user ∨
    ∃ id ∈ e.refs.postId, ∃ post ∈ c.posts.get? id, post.authorId = user

variable {c : Content} {e : Event} {v : String}

/-- What is open to nobody is open to everybody. -/
lemma feedOpen_of_none {id : String} (h : c.FeedOpen none id) (v : String) :
    c.FeedOpen (some v) id := by
  obtain ⟨feed, hfeed, owner, howner, hopens⟩ := h
  refine ⟨feed, hfeed, owner, howner, ?_⟩
  unfold Opens at hopens ⊢
  split
  · next hdirects =>
    rw [if_pos hdirects] at hopens
    cases hopens
  · next hdirects =>
    rw [if_neg hdirects] at hopens
    obtain hown | ⟨-, w, hw, -⟩ | ⟨-, -, hsome⟩ | hpublic := hopens
    · cases hown
    · cases hw
    · cases hsome
    · exact .inr (.inr (.inr hpublic))

lemma visible_of_none {author : Option String} {feeds : List String}
    (hpeace : ∀ user, author = some user → user ≠ v → c.Unbanned (some v) (some user))
    (h : c.Visible none author feeds) : c.Visible (some v) author feeds := by
  obtain ⟨w, hw, -⟩ | ⟨⟨id, hid, hopen⟩, -⟩ := h
  · cases hw
  · by_cases hown : author = some v
    · exact .inl ⟨v, rfl, hown⟩
    · refine .inr ⟨⟨id, hid, feedOpen_of_none hopen v⟩, ?_⟩
      intro w hw other hother
      cases Option.mem_some.1 hw
      have hne : other ≠ v := fun heq => hown (heq ▸ hother)
      exact hpeace other hother hne v rfl other rfl

/-- Whoever is in no ban with those who are involved gets at least what nobody gets. -/
theorem calledFor_none_le
    (hpeace : ∀ user, c.Involves e user → user ≠ v → c.Unbanned (some v) (some user)) :
    c.calledFor none e ≤ c.calledFor (some v) e := by
  have hfree : ¬ c.Bans (some v) e.refs.actorId := by
    rintro ⟨w, hw, a, ha, hne, hmem⟩
    cases Option.mem_some.1 hw
    exact (hpeace a (.inl ha) hne.symm v rfl a rfl).1 hmem
  apply calledFor_mono
  · exact visible_of_none fun user huser => hpeace user (.inl huser)
  · rintro ⟨id, hid, post, hpost, hvisible⟩
    refine ⟨id, hid, post, hpost, visible_of_none (fun user huser => ?_) hvisible⟩
    exact hpeace user (.inr ⟨id, hid, post, hpost, Option.some.inj huser⟩)
  · rintro ⟨w, hw, -⟩
    cases hw
  · exact fun hbans => absurd hbans hfree
  · exact fun hbans => absurd hbans hfree

end Content

/-! ### Decisions of the service -/

/-- Tightening never widens: after any changes that tighten, no principal gets more of an event than
before. And whoever is somebody, and in no ban with the author of the event's post or with who acted in
the event, gets at least what nobody gets. -/
theorem tightening_never_widens (c : Content) (e : Event) (p : Principal) (timeout : Nat) :
    (∀ updates : List ContentUpdate, (∀ u ∈ updates, u.Tightens) →
      (decideWithin timeout { content := updates.foldl Content.update c } e p).result ≤
        (decideWithin timeout { content := c } e p).result) ∧
    ∀ v, p.userId = some v →
      (∀ user, c.Involves e user → user ≠ v → c.Unbanned (some v) (some user)) →
      (decideWithin timeout { content := c } e .anonymous).result ≤
        (decideWithin timeout { content := c } e p).result := by
  simp only [decideWithin_content, Content.eval_decision]
  constructor
  · intro updates hupdates
    exact (Content.TightensTo.updates hupdates c).calledFor_le p.userId e
  · intro v hv hpeace
    rw [hv]
    exact Content.calledFor_none_le hpeace

/-- A post of two users with a comment by a third, and somebody who is subscribed to the first. -/
def commented : Content := List.foldl Content.update {} [
  .addUser "luna", .addUser "mars", .addUser "venus", .addGroup "planets",
  .addFeed "luna:posts" "luna" "Posts", .addFeed "planets:posts" "planets" "Posts",
  .addPost "p" "luna" ["luna:posts", "planets:posts"], .subscribe "mars" "luna"]

def commentOfVenus : Event :=
  ⟨.commentNew, { postId := some "p", commentId := some "k", actorId := some "venus" }, ['1']⟩

/-- The feeds close to all but those who are subscribed, and the viewer bans the third. -/
def withdrawals : List ContentUpdate := [
  .setPrivate "luna" true, .setRestricted "planets" true, .setProtected "planets" true,
  .ban "mars" "venus"]

/-- A subscriber gets the comment, as anybody does. After the withdrawals a placeholder of it is left, and
when the subscription ends, nothing is. -/
theorem commentOfVenus_withdrawn :
    let later := withdrawals ++ [.unsubscribe "mars" "luna"]
    let got (c : Content) (p : Principal) := (decideWithin 500 { content := c } commentOfVenus p).result
    ((∀ u ∈ withdrawals, u.Tightens) ∧ ∀ u ∈ later, u.Tightens) ∧
      (got commented (.session "mars") = .allow ∧
        got (withdrawals.foldl Content.update commented) (.session "mars") = .allowRedacted ∧
        got (later.foldl Content.update commented) (.session "mars") = .deny) ∧
      got (withdrawals.foldl Content.update commented) (.session "mars") ≤
        got commented (.session "mars") ∧
      got (later.foldl Content.update commented) (.session "mars") ≤
        got commented (.session "mars") ∧
      (∀ user, commented.Involves commentOfVenus user → user ≠ "mars" →
        commented.Unbanned (some "mars") (some user)) ∧
      got commented .anonymous ≤ got commented (.session "mars") := by
  intro later got
  have hwithdrawals : ∀ u ∈ withdrawals, u.Tightens := by
    simp [withdrawals, ContentUpdate.Tightens.setPrivate, ContentUpdate.Tightens.setRestricted,
      ContentUpdate.Tightens.setProtected, ContentUpdate.Tightens.ban]
  have hlater : ∀ u ∈ later, u.Tightens := by
    intro u hu
    obtain hu | hu := List.mem_append.1 hu
    · exact hwithdrawals u hu
    · rw [List.mem_singleton.1 hu]
      exact .unsubscribe "mars" "luna"
  have hpeace : ∀ user, commented.Involves commentOfVenus user → user ≠ "mars" →
      commented.Unbanned (some "mars") (some user) := by
    intro user _ _ v _ other _
    have hnone : commented.bans = [] := by decide +kernel
    rw [hnone]
    exact ⟨List.not_mem_nil, List.not_mem_nil⟩
  obtain ⟨htighter, hsomebody⟩ :=
    tightening_never_widens commented commentOfVenus (.session "mars") 500
  exact ⟨⟨hwithdrawals, hlater⟩, by decide +kernel, htighter _ hwithdrawals, htighter _ hlater, hpeace,
    hsomebody "mars" rfl hpeace⟩

end EventGateway

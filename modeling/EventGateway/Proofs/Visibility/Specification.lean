import EventGateway.Store.Limited
import EventGateway.Visibility.Decision
import Mathlib.Tactic.Lemma

/-!
# Who may see what

Visibility as a property of the content alone: when a feed is open to a viewer, when a post is visible,
and what a viewer is to get of an event of each class. Main statement: on a store without faults every
decision is the one that the content calls for.
-/

namespace EventGateway

/-! ### Feeds and posts -/

/-- May only its members read what is in the feeds of the account? -/
def Account.MembersOnly (owner : Account) : Prop :=
  owner.isPrivate ∨ (owner.isGroup ∧ owner.isRestricted)

namespace Content

variable (c : Content) (viewer : Option String)

/-- Does the owner let the viewer read the feed? -/
def Opens (feed : Feed) (owner : Account) : Prop :=
  if feed.kind = .directs then viewer = some feed.ownerId
  else
    viewer = some feed.ownerId ∨
    (owner.MembersOnly ∧ ∃ v ∈ viewer, (v, feed.ownerId) ∈ c.subscriptions) ∨
    (¬ owner.MembersOnly ∧ owner.isProtected ∧ viewer.isSome) ∨
    (¬ owner.MembersOnly ∧ ¬ owner.isProtected)

/-- Is the feed open to the viewer? The feed and its owner have to be stored. -/
def FeedOpen (id : String) : Prop :=
  ∃ feed ∈ c.feeds.get? id, ∃ owner ∈ c.accounts.get? feed.ownerId, c.Opens viewer feed owner

/-- Is there no ban between the viewer and somebody else, as far as both are known? -/
def Unbanned (other : Option String) : Prop :=
  ∀ v ∈ viewer, ∀ o ∈ other, (v, o) ∉ c.bans ∧ (o, v) ∉ c.bans

/-- Is what the author wrote into the feeds visible? -/
def Visible (author : Option String) (feeds : List String) : Prop :=
  (∃ v ∈ viewer, author = some v) ∨
    ((∃ id ∈ feeds, c.FeedOpen viewer id) ∧ c.Unbanned viewer author)

/-- Is the post of the id stored, and visible with the author and feeds that it is stored with? -/
def PostVisible (postId : Option String) : Prop :=
  ∃ id ∈ postId, ∃ post ∈ c.posts.get? id, c.Visible viewer (some post.authorId) post.feedIds

/-! ### Events -/

/-- Does the viewer ban the actor, who is somebody else? -/
def Bans (actor : Option String) : Prop :=
  ∃ v ∈ viewer, ∃ a ∈ actor, v ≠ a ∧ (v, a) ∈ c.bans

/-- Does the viewer want to see nothing of comments by banned users? -/
def Hides : Prop :=
  ∃ v ∈ viewer, ∃ account ∈ c.accounts.get? v, account.hidesBannedComments

end Content

/-- Is the event about the viewer? -/
def Refs.Concerns (refs : Refs) (viewer : Option String) : Prop :=
  ∃ v ∈ viewer, refs.userId = some v

instance (owner : Account) : Decidable owner.MembersOnly := by
  unfold Account.MembersOnly; infer_instance

instance (refs : Refs) (viewer : Option String) : Decidable (refs.Concerns viewer) := by
  unfold Refs.Concerns; infer_instance

namespace Content

variable (c : Content) (viewer : Option String)

instance (feed : Feed) (owner : Account) : Decidable (c.Opens viewer feed owner) := by
  unfold Opens; infer_instance

instance (id : String) : Decidable (c.FeedOpen viewer id) := by
  unfold FeedOpen; infer_instance

instance (other : Option String) : Decidable (c.Unbanned viewer other) := by
  unfold Unbanned; infer_instance

instance (author : Option String) (feeds : List String) :
    Decidable (c.Visible viewer author feeds) := by
  unfold Visible; infer_instance

instance (postId : Option String) : Decidable (c.PostVisible viewer postId) := by
  unfold PostVisible; infer_instance

instance (actor : Option String) : Decidable (c.Bans viewer actor) := by
  unfold Bans; infer_instance

instance : Decidable (c.Hides viewer) := by
  unfold Hides; infer_instance

/-- What the content calls for: the decision about an event for a viewer. -/
def calledFor (e : Event) : Decision :=
  match e.name with
  | .postNew | .postUpdate => .allowIf (c.PostVisible viewer e.refs.postId)
  | .postDestroy => .allowIf (c.Visible viewer e.refs.actorId e.refs.feedIds)
  | .postHide | .postUnhide | .postSave | .postUnsave =>
    .allowIf (e.refs.Concerns viewer ∧ c.PostVisible viewer e.refs.postId)
  | .commentNew | .commentUpdate =>
    if ¬ c.PostVisible viewer e.refs.postId then .deny
    else if ¬ c.Bans viewer e.refs.actorId then .allow
    else if c.Hides viewer then .deny
    else .allowRedacted
  | .commentDestroy => .allowIf (c.PostVisible viewer e.refs.postId)
  | .likeNew | .likeRemove | .commentLikeNew | .commentLikeRemove =>
    .allowIf (c.PostVisible viewer e.refs.postId ∧ ¬ c.Bans viewer e.refs.actorId)
  | .userUpdate | .eventNew => .allowIf (e.refs.Concerns viewer)
  | .globalUserUpdate | .groupTimesUpdate => .allow

/-! ### Lookups about feeds -/

variable {c viewer}

/-- How the feed of an access stands to the viewer, with its subscriptions looked up. -/
lemma opens_iff_standing {id : String} {feed : Feed} {owner : Account} {access : FeedAccess}
    (hf : c.feeds.get? id = some feed) (ho : c.accounts.get? feed.ownerId = some owner)
    (ha : c.feedAccess? id = some access) :
    c.Opens viewer feed owner ↔
      access.standing viewer = .opened ∨
        (access.standing viewer = .needsSubscription ∧
          ∃ v ∈ viewer, (v, access.ownerId) ∈ c.subscriptions) := by
  simp only [feedAccess?, hf, ho, Option.bind_eq_bind, Option.bind_some, Option.some.injEq] at ha
  subst ha
  cases viewer <;>
    simp [Opens, Account.MembersOnly, FeedAccess.standing, FeedAccess.membersOnly] <;> grind

/-- A feed is open if it is stored and its standing, with the subscriptions, says so. -/
lemma feedOpen_iff {id : String} :
    c.FeedOpen viewer id ↔ ∃ access, c.feedAccess? id = some access ∧
      (access.standing viewer = .opened ∨
        (access.standing viewer = .needsSubscription ∧
          ∃ v ∈ viewer, (v, access.ownerId) ∈ c.subscriptions)) := by
  constructor
  · rintro ⟨feed, hf, owner, ho, h⟩
    obtain ⟨access, ha⟩ : ∃ access, c.feedAccess? id = some access := by
      simp [feedAccess?, Option.mem_def.1 hf, Option.mem_def.1 ho]
    exact ⟨access, ha, (opens_iff_standing hf ho ha).1 h⟩
  · rintro ⟨access, ha, h⟩
    have ha' := ha
    simp only [feedAccess?, Option.bind_eq_bind, Option.bind_eq_some_iff] at ha'
    obtain ⟨feed, hf, owner, ho, -⟩ := ha'
    exact ⟨feed, hf, owner, ho, (opens_iff_standing hf ho ha).2 h⟩

end Content

/-- The owners that wait for a subscription are those of the feeds that need one. -/
lemma mem_deferredOwners {feeds : List FeedAccess} {viewer : Option String} {owner : String} :
    owner ∈ deferredOwners feeds viewer ↔
      ∃ feed ∈ feeds, feed.standing viewer = .needsSubscription ∧ feed.ownerId = owner := by
  -- owners found so far are kept, so the statement is about any list to start from
  suffices h : ∀ owners : List String, owner ∈ feeds.foldl (fun owners feed =>
      if feed.standing viewer = .needsSubscription ∧ feed.ownerId ∉ owners
      then owners ++ [feed.ownerId] else owners) owners ↔
        owner ∈ owners ∨
          ∃ feed ∈ feeds, feed.standing viewer = .needsSubscription ∧ feed.ownerId = owner by
    simpa [deferredOwners] using h []
  induction feeds with
  | nil => simp
  | cons feed feeds ih =>
    intro owners
    rw [List.foldl_cons, ih]
    split <;> simp <;> grind

namespace Content

variable {c : Content} {viewer : Option String}

/-- Looking at some feeds tells whether one of them is open. -/
lemma eval_someFeedOpen (ids : List String) :
    (someFeedOpen (c.feedAccess ids) viewer).eval c = true ↔ ∃ id ∈ ids, c.FeedOpen viewer id := by
  have hmem : ∀ P : FeedAccess → Prop, (∃ feed ∈ c.feedAccess ids, P feed) ↔
      ∃ id ∈ ids, ∃ feed, c.feedAccess? id = some feed ∧ P feed := by
    intro P
    simp only [feedAccess, List.mem_filterMap]
    grind
  simp only [feedOpen_iff, ← hmem]
  simp only [someFeedOpen]
  split
  case isTrue h =>
    obtain ⟨feed, hf, ho⟩ := List.any_eq_true.1 h
    simp only [Lookup.eval_done, true_iff]
    exact ⟨feed, hf, .inl (of_decide_eq_true ho)⟩
  case isFalse h =>
    have hclosed : ∀ feed ∈ c.feedAccess ids, feed.standing viewer ≠ .opened := by
      simpa using h
    cases viewer with
    | none =>
      simp only [Lookup.eval_done, Bool.false_eq_true, false_iff]
      rintro ⟨feed, hf, ho | ⟨-, w, hw, -⟩⟩
      · exact hclosed feed hf ho
      · cases hw
    | some v =>
      cases hd : deferredOwners (c.feedAccess ids) (some v) with
      | nil =>
        simp only [Lookup.eval_done, Bool.false_eq_true, false_iff]
        rintro ⟨feed, hf, ho | ⟨hs, -⟩⟩
        · exact hclosed feed hf ho
        · exact List.ne_nil_of_mem (mem_deferredOwners.2 ⟨feed, hf, hs, rfl⟩) hd
      | cons owner owners =>
        -- some feeds wait for a subscription: the lookup asks about exactly their owners
        simp only [Lookup.query, Lookup.ask_bind, Lookup.done_bind, Lookup.eval_ask,
          Lookup.eval_done, Content.answer, ← hd, Bool.not_eq_true',
          List.isEmpty_eq_false_iff_exists_mem, subscribedTo, List.mem_filter, isSubscribed,
          decide_eq_true_eq, mem_deferredOwners]
        constructor
        · rintro ⟨_, ⟨feed, hf, hs, rfl⟩, hsub⟩
          exact ⟨feed, hf, .inr ⟨hs, v, rfl, hsub⟩⟩
        · rintro ⟨feed, hf, ho | ⟨hs, w, hw, hsub⟩⟩
          · exact absurd ho (hclosed feed hf)
          · cases Option.mem_some.1 hw
            exact ⟨_, ⟨feed, hf, hs, rfl⟩, hsub⟩

/-- Looking at an author and feeds tells whether what the author wrote into them is visible. -/
lemma eval_readable (author : Option String) (ids : List String) :
    (readable author (c.feedAccess ids) viewer).eval c = decide (c.Visible viewer author ids) := by
  rw [Bool.eq_iff_iff, decide_eq_true_iff]
  simp only [readable]
  split
  case isTrue h =>
    obtain ⟨v, rfl⟩ := Option.isSome_iff_exists.1 h.1
    simp only [Lookup.eval_done, true_iff]
    exact .inl ⟨v, rfl, h.2.symm⟩
  case isFalse h =>
    have hauthor : ¬ ∃ v ∈ viewer, author = some v := by
      rintro ⟨v, rfl, rfl⟩
      exact h ⟨rfl, rfl⟩
    simp only [Visible, hauthor, false_or, Lookup.eval_bind, ← eval_someFeedOpen]
    split
    case isTrue hopen =>
      cases viewer <;> cases author <;>
        simp [hopen, Unbanned, Lookup.query, Content.answer, banRelation, BanRelation.any]
    case isFalse hclosed => simp [hclosed]

lemma eval_postVisible (postId : Option String) :
    (postVisible postId viewer).eval c = decide (c.PostVisible viewer postId) := by
  cases postId with
  | none => simp [postVisible, PostVisible]
  | some id =>
    cases hp : c.posts.get? id with
    | none => simp [postVisible, PostVisible, Lookup.query, Content.answer, postAccess?, hp]
    | some post =>
      simp [postVisible, PostVisible, Lookup.query, Content.answer, postAccess?, hp, eval_readable]

/-- Looking at what a destroyed post left tells whether it was visible. -/
lemma eval_destroyedPostVisible (refs : Refs) :
    (destroyedPostVisible refs viewer).eval c =
      decide (c.Visible viewer refs.actorId refs.feedIds) := by
  simp [destroyedPostVisible, Lookup.query, Content.answer, eval_readable]

/-! ### Lookups about events -/

lemma concernsViewer_eq (refs : Refs) :
    concernsViewer refs viewer = decide (refs.Concerns viewer) := by
  cases viewer <;> simp [concernsViewer, Refs.Concerns, eq_comm]

/-- What is looked up about a comment, once its post is visible. -/
lemma eval_commentDecision (name : EventName) (actor : Option String) :
    (commentDecision name actor viewer).eval c =
      if name = .commentDestroy ∨ ¬ c.Bans viewer actor then .allow
      else if c.Hides viewer then .deny
      else .allowRedacted := by
  cases viewer with
  | none => simp [commentDecision, Bans]
  | some v =>
    cases actor with
    | none => simp [commentDecision, Bans]
    | some a =>
      have hhides : c.hidesBannedComments v = decide (c.Hides (some v)) := by
        cases h : c.accounts.get? v <;> simp [hidesBannedComments, Hides, h]
      simp only [commentDecision, Bans]
      split
      · grind [Lookup.eval_done]
      · next h =>
        rw [not_or] at h
        by_cases hban : (v, a) ∈ c.bans
        · simp [Lookup.query, Content.answer, banRelation, hhides, hban, h]
          split <;> rfl
        · simp [Lookup.query, Content.answer, banRelation, hban]

/-- What is looked up about a like, once what was liked is visible. -/
lemma eval_likeDecision (actor : Option String) :
    (likeDecision actor viewer).eval c = .allowIf (¬ c.Bans viewer actor) := by
  cases viewer with
  | none => simp [likeDecision, Bans, Decision.allowIf]
  | some v =>
    cases actor with
    | none => simp [likeDecision, Bans, Decision.allowIf]
    | some a =>
      simp only [likeDecision, Bans]
      split
      · simp [Decision.allowIf, *]
      · simp [Lookup.query, Content.answer, banRelation, *]

/-- The lookups about an event come to what the content calls for. -/
lemma eval_decision (e : Event) : (e.decision viewer).eval c = c.calledFor viewer e := by
  unfold Event.decision calledFor
  cases e.name with
  | postNew | postUpdate | postDestroy =>
    simp [EventName.eventClass, eval_postVisible, eval_destroyedPostVisible]
  | postHide | postUnhide | postSave | postUnsave =>
    simp only [EventName.eventClass, concernsViewer_eq, decide_eq_true_eq]
    split <;> simp_all [eval_postVisible, Decision.allowIf]
  | commentNew | commentUpdate | commentDestroy =>
    simp only [EventName.eventClass, Lookup.eval_bind, eval_postVisible, decide_eq_true_eq]
    split <;> simp_all [eval_commentDecision, Decision.allowIf]
  | likeNew | likeRemove | commentLikeNew | commentLikeRemove =>
    simp only [EventName.eventClass, Lookup.eval_bind, eval_postVisible, decide_eq_true_eq]
    split <;> simp_all [eval_likeDecision, Decision.allowIf]
  | userUpdate | eventNew => simp [EventName.eventClass, concernsViewer_eq]
  | globalUserUpdate | groupTimesUpdate => rfl

end Content

/-! ### Decisions of the service -/

/-- Without delays and failures, a lookup is over at once. -/
lemma Lookup.proceed_content {α : Type} (c : Content) (now : Nat) (x : Lookup α) :
    x.proceed { content := c } now = .finished (.ok (x.eval c)) := by
  induction x with
  | done a => rfl
  | ask q next ih => exact ih (c.answer q)

lemma Lookup.elapsed_run_content {α : Type} (c : Content) (x : Lookup α) :
    (x.run { content := c }).elapsed = 0 := by
  induction x with
  | done a => rfl
  | ask q next ih => simpa [Lookup.run, Store.ask, Store.delay] using ih (c.answer q)

/-- Without delays and failures a decision takes no time. -/
lemma decideWithin_content (c : Content) (e : Event) (p : Principal) (timeout : Nat) :
    decideWithin timeout { content := c } e p = ⟨(e.decision p.userId).eval c, 0⟩ := by
  have helapsed := Lookup.elapsed_run_content c (e.decision p.userId)
  have hresult := Lookup.result_run (s := { content := c }) rfl (e.decision p.userId)
  simp [decideWithin, Timed.within, helapsed, hresult, decisionResult]

/-- On a store without delays and failures every decision is the one that the content calls for: when it
is asked for on its own, whatever the time limit, and when a delivery asks for it in a run of the
service. -/
theorem decision_eq_calledFor (c : Content) (e : Event) (p : Principal) :
    (∀ timeout : Nat, decideWithin timeout { content := c } e p = ⟨c.calledFor p.userId e, 0⟩) ∧
    (∀ now limit turn : Nat, Limited.start { content := c } now limit turn (e.decision p.userId) =
      .finished (.ok (c.calledFor p.userId e))) := by
  constructor
  · intro timeout
    have helapsed := Lookup.elapsed_run_content c (e.decision p.userId)
    have hresult := Lookup.result_run (s := { content := c }) rfl (e.decision p.userId)
    simp [decideWithin, Timed.within, helapsed, hresult, decisionResult, Content.eval_decision]
  · intro now limit turn
    rw [Limited.start, Lookup.proceed_content, Content.eval_decision]
    rfl

end EventGateway

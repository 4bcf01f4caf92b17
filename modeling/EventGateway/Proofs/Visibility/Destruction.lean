import EventGateway.Proofs.Visibility.Specification

/-!
# Destroyed posts

A post that is gone is decided on by what the event about its end tells: who wrote it, and into which
feeds. Main statement: that is the decision about an update of the post just before it is removed, after
the same time, whatever the faults of the store are (`destroyed_decided_as_stored`).
-/

namespace EventGateway

variable {α β : Type} {s s' : Store}

/-! ### Lookups on two stores -/

/-- The queries of the stores take the same time, and find the same about feeds, their owners and the
viewers' relations to them. The posts may differ. -/
structure Store.SamePrivacy (s s' : Store) : Prop where
  failing : s'.failing = s.failing
  latency : s'.latency = s.latency
  feeds : s'.content.feeds = s.content.feeds
  accounts : s'.content.accounts = s.content.accounts
  subscriptions : s'.content.subscriptions = s.content.subscriptions
  bans : s'.content.bans = s.content.bans

lemma Store.samePrivacy_removePost (s : Store) (id : String) :
    s.SamePrivacy (s.update (.content (.removePost id))) :=
  ⟨rfl, rfl, rfl, rfl, rfl, rfl⟩

namespace Lookup

lemma run_bind (s : Store) (x : Lookup α) (f : α → Lookup β) :
    (x >>= f).run s =
      match (x.run s).result with
      | .error e => ⟨.error e, (x.run s).elapsed⟩
      | .ok a => ⟨((f a).run s).result, (x.run s).elapsed + ((f a).run s).elapsed⟩ := by
  induction x with
  | done a => simp [run]
  | ask q next ih =>
    simp only [ask_bind, run]
    cases s.ask q with
    | error e => rfl
    | ok answer =>
      dsimp only
      rw [ih answer]
      cases ((next answer).run s).result with
      | error e => rfl
      | ok a => simp only [Nat.add_assoc]

/-- Does a lookup come to the same on one store as another one does on another store, after the same
time? -/
def RunsAs (s s' : Store) (x y : Lookup α) : Prop := x.run s = y.run s'

namespace RunsAs

lemma done (a : α) : RunsAs s s' (.done a) (.done a) := rfl

lemma ask (h : s.SamePrivacy s') {q q' : Query} {next : q.Answer → Lookup α}
    {next' : q'.Answer → Lookup α}
    (hnext : RunsAs s s' (next (s.content.answer q)) (next' (s'.content.answer q'))) :
    RunsAs s s' (.ask q next) (.ask q' next') := by
  unfold RunsAs at hnext ⊢
  simp only [run, Store.ask, Store.delay, h.failing, h.latency]
  by_cases hfailing : s.failing = true
  · simp only [if_pos hfailing]
  · simp only [if_neg hfailing, hnext]

lemma bind {x y : Lookup α} (hxy : RunsAs s s' x y) {f g : α → Lookup β}
    (h : ∀ a, RunsAs s s' (f a) (g a)) : RunsAs s s' (x >>= f) (y >>= g) := by
  unfold RunsAs at hxy h ⊢
  rw [run_bind, run_bind, hxy]
  simp only [h]

end RunsAs

end Lookup

/-! ### Feeds in any order -/

namespace Store.SamePrivacy

open Lookup

variable {viewer : Option String} {feeds feeds' : List FeedAccess}

lemma feedAccess? (h : s.SamePrivacy s') (id : String) :
    s'.content.feedAccess? id = s.content.feedAccess? id := by
  simp only [Content.feedAccess?, h.feeds, h.accounts]

lemma mem_feedAccess (h : s.SamePrivacy s') {ids ids' : List String} (hids : ∀ id, id ∈ ids ↔ id ∈ ids')
    (feed : FeedAccess) : feed ∈ s'.content.feedAccess ids ↔ feed ∈ s.content.feedAccess ids' := by
  simp only [Content.feedAccess, List.mem_filterMap, h.feedAccess?, hids]

/-- Only which feeds there are matters, not their order, and not how often each is there. -/
lemma someFeedOpen (h : s.SamePrivacy s') (hfeeds : ∀ feed, feed ∈ feeds' ↔ feed ∈ feeds) :
    RunsAs s s' (EventGateway.someFeedOpen feeds viewer) (EventGateway.someFeedOpen feeds' viewer) := by
  have hopened : feeds'.any (·.standing viewer = .opened) = feeds.any (·.standing viewer = .opened) := by
    rw [Bool.eq_iff_iff]
    simp only [List.any_eq_true, hfeeds]
  have howners : ∀ owner, owner ∈ deferredOwners feeds' viewer ↔ owner ∈ deferredOwners feeds viewer := by
    intro owner
    simp only [mem_deferredOwners, hfeeds]
  simp only [EventGateway.someFeedOpen, hopened]
  split
  · exact .done true
  · cases viewer with
    | none => exact .done false
    | some v =>
      generalize deferredOwners feeds' (some v) = owners' at howners
      generalize deferredOwners feeds (some v) = owners at howners
      cases owners with
      | nil =>
        rw [List.eq_nil_iff_forall_not_mem.2 fun owner => mt (howners owner).1 List.not_mem_nil]
        exact .done false
      | cons owner rest =>
        cases owners' with
        | nil => exact absurd ((howners owner).2 (List.mem_cons_self ..)) List.not_mem_nil
        | cons owner' rest' =>
          refine .ask h ?_
          have hnone : ((s'.content.subscribedTo v (owner' :: rest')).isEmpty) =
              (s.content.subscribedTo v (owner :: rest)).isEmpty := by
            rw [Bool.eq_iff_iff]
            simp only [Content.subscribedTo, Content.isSubscribed, h.subscriptions,
              List.isEmpty_iff, List.filter_eq_nil_iff, howners]
          show RunsAs s s' (.done _) (.done _)
          simp only [Content.answer, hnone]
          exact .done _

/-- What an author wrote into the feeds is readable on the one store if it is on the other. -/
lemma readable (h : s.SamePrivacy s') (hfeeds : ∀ feed, feed ∈ feeds' ↔ feed ∈ feeds)
    (author : Option String) :
    RunsAs s s' (EventGateway.readable author feeds viewer)
      (EventGateway.readable author feeds' viewer) := by
  unfold EventGateway.readable
  split
  · exact .done true
  · refine (h.someFeedOpen hfeeds).bind fun opened => ?_
    cases opened with
    | false => exact .done false
    | true =>
      cases viewer with
      | none => exact .done true
      | some v =>
        cases author with
        | none => exact .done true
        | some a =>
          refine .ask h ?_
          have hbans : s'.content.banRelation v a = s.content.banRelation v a := by
            simp only [Content.banRelation, h.bans]
          show RunsAs s s' (.done _) (.done _)
          simp only [Content.answer, hbans]
          exact .done _

end Store.SamePrivacy

/-! ### The event about the end of a post -/

/-- The event tells who wrote the post and into which feeds, in any order. -/
structure Refs.TellsOf (refs : Refs) (post : Post) : Prop where
  author : refs.actorId = some post.authorId
  feeds : ∀ id, id ∈ refs.feedIds ↔ id ∈ post.feedIds

variable {id : String} {post : Post} {update destroy : Event}

/-- The end of a post is decided on, after it is removed, as an update of it is just before. -/
theorem destroyed_decided_as_stored (hpost : s.content.posts.get? id = some post)
    (hupdate : update.name = .postUpdate) (hid : update.refs.postId = some id)
    (hdestroy : destroy.name = .postDestroy) (htells : destroy.refs.TellsOf post)
    (p : Principal) (timeout : Nat) :
    decideWithin timeout (s.update (.content (.removePost id))) destroy p =
      decideWithin timeout s update p := by
  have hsame := s.samePrivacy_removePost id
  have hvisible : Lookup.RunsAs s (s.update (.content (.removePost id)))
      (postVisible update.refs.postId p.userId) (destroyedPostVisible destroy.refs p.userId) := by
    rw [hid]
    -- each asks one query for the feeds, of the post or of the ids that the event tells
    refine .ask hsame ?_
    simp only [Content.answer, Content.postAccess?, hpost, Option.map_some, htells.author]
    exact hsame.readable (hsame.mem_feedAccess htells.feeds) (some post.authorId)
  have hdecision : Lookup.RunsAs s (s.update (.content (.removePost id)))
      (update.decision p.userId) (destroy.decision p.userId) := by
    simp only [Event.decision, hupdate, hdestroy, EventName.eventClass]
    exact hvisible.bind fun visible => .done _
  simp only [decideWithin, hdecision.symm]

/-- A post in a private feed, in a group, in a feed of direct messages and in one that is not stored. -/
def scattered : Store where
  content := List.foldl Content.update {} [
    .addUser "luna", .addUser "mars", .addGroup "planets",
    .addFeed "luna:posts" "luna" "Posts", .addFeed "mars:directs" "mars" "Directs",
    .addFeed "planets:posts" "planets" "Posts", .setPrivate "luna" true, .setRestricted "planets" true,
    .addPost "p" "luna" ["luna:posts", "planets:posts", "mars:directs", "nowhere"],
    .subscribe "venus" "planets"]
  latency := some 40

/-- The feeds are told in another order, one of them twice. A subscriber of the group may see the end of
the post, and a stranger may not. -/
theorem scattered_destroyed :
    let post : Post := ⟨"luna", ["luna:posts", "planets:posts", "mars:directs", "nowhere"]⟩
    let update : Event := ⟨.postUpdate, { postId := some "p" }, ['1']⟩
    let destroy : Event := ⟨.postDestroy, { actorId := some "luna", feedIds :=
      ["nowhere", "mars:directs", "planets:posts", "luna:posts", "planets:posts"] }, ['2']⟩
    let later := scattered.update (.content (.removePost "p"))
    scattered.content.posts.get? "p" = some post ∧ destroy.refs.TellsOf post ∧
      (∀ p : Principal, decideWithin 500 later destroy p = decideWithin 500 scattered update p) ∧
      (decideWithin 500 later destroy (.session "venus")).result = .allow ∧
      (decideWithin 500 later destroy (.session "pluto")).result = .deny := by
  intro post update destroy later
  have hpost : scattered.content.posts.get? "p" = some post := by decide +kernel
  have htells : destroy.refs.TellsOf post := by
    refine ⟨rfl, fun id => ?_⟩
    simp only [destroy, post, List.mem_cons, List.not_mem_nil, or_false]
    grind
  have hsame (p : Principal) : decideWithin 500 later destroy p = decideWithin 500 scattered update p :=
    destroyed_decided_as_stored hpost rfl rfl rfl htells p 500
  exact ⟨hpost, htells, hsame, by decide +kernel, by decide +kernel⟩

end EventGateway

import Mathlib.Data.List.Forall2
import Reconcile.Proofs.Cluster.Shared
import Reconcile.Proofs.Command.Search
import Reconcile.Proofs.Program.Moments
import Reconcile.Proofs.Program.Reads

/-!
# Garbage collection among other clients

While garbage is searched for and deleted, other clients create, patch and delete objects between any
two requests. What is to be deleted was listed a while ago, so a deletion names the uid that was
listed: it takes away that very object or counts as raced. `Program.collect_among_others` says so for
whole collections and for every way in which orderly clients may interfere.
-/

namespace Reconcile

open MemoryCluster (keyOf key)

/-- The session after a listing: the others have acted. -/
def Memo.afterList (others : Shared → Shared) (memo : Memo Shared) : Memo Shared :=
  { memo with server := others (memo.server.become memo.server.now) }

/-- The uid on which a deletion depends. -/
def Request.condition? : Request → Option String
  | .delete _ _ _ options => options.uid
  | _ => none

/-- What has become of the search for garbage when all that was looked at has a uid: what is taken
down was found, is eligible and was not seen, and no uid is taken down twice. -/
structure Gathering.Caught (tag : String) (seen : Seen) (found : Resource → Prop) (g : Gathering) :
    Prop where
  doomed : ∀ r ∈ g.doomed, found r ∧ r.isEligible tag = true ∧ seen.contains r = false
  walked : ∀ r ∈ g.doomed, ∃ uid ∈ g.walked, r.uid? = some uid
  nodup : (g.doomed.map Resource.uid?).Nodup

namespace Gathering.Caught

variable {tag : String} {seen : Seen} {found : Resource → Prop} {g : Gathering}

/-- Before anything was found nothing is caught. -/
theorem empty (tag : String) (seen : Seen) (found : Resource → Prop) :
    Gathering.empty.Caught tag seen found := by
  constructor <;> simp [Gathering.empty]

/-- What was caught stays caught when more is found. -/
theorem mono (h : g.Caught tag seen found) {more : Resource → Prop} (hmore : ∀ r, found r → more r) :
    g.Caught tag seen more :=
  ⟨fun r hr => ⟨hmore r (h.doomed r hr).1, (h.doomed r hr).2⟩, h.walked, h.nodup⟩

/-- Looking at one object more. -/
theorem visit (h : g.Caught tag seen found) {r : Resource} {uid : String} (hr : found r)
    (huid : r.uid? = some uid) : (g.visit tag seen r).Caught tag seen found := by
  by_cases hwalked : uid ∈ g.walked
  · rw [visit_of_walked huid hwalked]
    exact h
  have hdoomed : ∀ x ∈ (g.visit tag seen r).doomed,
      found x ∧ x.isEligible tag = true ∧ seen.contains x = false := by
    intro x hx
    rcases mem_doomed_visit hx with hx | ⟨rfl, heligible, hnew⟩
    · exact h.doomed x hx
    · exact ⟨hr, heligible, hnew⟩
  refine ⟨hdoomed, fun x hx => ?_, ?_⟩
  · rcases mem_doomed_visit hx with hx | ⟨rfl, -⟩
    · obtain ⟨other, hother, hsame⟩ := h.walked x hx
      rw [visit_of_new huid hwalked]
      exact ⟨other, List.mem_cons_of_mem _ hother, hsame⟩
    · rw [visit_of_new huid hwalked]
      exact ⟨uid, List.mem_cons_self, huid⟩
  · rw [visit_of_new huid hwalked]
    split
    · have hnew : r.uid? ∉ g.doomed.map Resource.uid? := by
        intro hmem
        obtain ⟨x, hx, hsame⟩ := List.mem_map.mp hmem
        obtain ⟨other, hother, hxuid⟩ := h.walked x hx
        obtain rfl : other = uid := Option.some.inj (hxuid.symm.trans (hsame.trans huid))
        exact hwalked hother
      rw [List.map_append, List.nodup_append]
      refine ⟨h.nodup, by simp, fun a ha b hb heq => hnew ?_⟩
      obtain rfl : b = r.uid? := by simpa using hb
      exact heq ▸ ha
    · exact h.nodup

/-- Looking at several objects. -/
theorem foldl_visit (h : g.Caught tag seen found) {listed : List Resource}
    (hlisted : ∀ r ∈ listed, found r ∧ ∃ uid, r.uid? = some uid) :
    (listed.foldl (Gathering.visit tag seen) g).Caught tag seen found := by
  induction listed generalizing g with
  | nil => exact h
  | cons r rest ih =>
    obtain ⟨hr, uid, huid⟩ := hlisted r List.mem_cons_self
    exact ih (h.visit hr huid) fun x hx => hlisted x (List.mem_cons_of_mem _ hx)

end Gathering.Caught

/-- A listing of a served kind that returns an object. -/
def Returns (kinds : List KindInfo) (r : Resource) (m : Request × Memo Shared) : Prop :=
  ∃ kind ∈ kinds, ∃ scope found, m.1 = .list kind scope none ∧
    m.2.server.now.list kind scope none = .ok found ∧ r ∈ found

/-- What a listing returns is there, just where it would be deleted. -/
theorem Returns.stored {r : Resource} {m : Request × Memo Shared}
    (h : Returns m.2.server.now.kinds r m) (keyed : m.2.server.now.Keyed) :
    ∃ kind, KindInfo.find m.2.server.now.kinds r.gvk = some kind ∧
      m.2.server.now.objects.get? (keyOf kind r) = some r := by
  obtain ⟨kind, hkind, scope, found, -, hlist, hr⟩ := h
  have hlisted : r ∈ m.2.server.now.listed (kind, scope) := by
    rw [MemoryCluster.listed, hlist]
    exact hr
  obtain ⟨-, id, hentry, hgvk, -⟩ := MemoryCluster.mem_listed.mp hlisted
  have hobject := (Store.mem_iff_get? keyed.rising).mp hentry
  have hfits := keyed.fits id r hobject
  have hserved : (KindInfo.find m.2.server.now.kinds r.gvk).isSome = true := by
    rw [KindInfo.find, List.find?_isSome]
    exact ⟨kind, hkind, by simp [hfits.gvk, hgvk]⟩
  obtain ⟨served, hserved⟩ := Option.isSome_iff_exists.mp hserved
  exact ⟨served, hserved, hfits.place served hserved ▸ hobject⟩

namespace Program

section Others

variable {others : Shared → Shared} {memo memo' : Memo Shared}

/-- Between two states of a session. -/
theorem later_answer (hothers : ∀ s, Relation.ReflTransGen Shared.Orderly s (others s)) (r : Request)
    (memo : Memo Shared) (h : r.TouchesNone) :
    memo.server.Later ((Shared.session others).answer r memo).2.server := by
  have hserved : memo.server.Later ((Shared.server others).answer r memo.server).2 := by
    refine Shared.Later.trans ?_ (Shared.Later.of_reflTransGen (hothers _))
    cases r with
    | get | create | patch => simp [Request.TouchesNone, Request.touched?] at h
    | delete kind scope name options =>
      show memo.server.Later (memo.server.become (memo.server.now.delete kind scope name options).2)
      have hdeed := MemoryCluster.Deed.delete (c := memo.server.now) kind scope name options
      exact .of_become hdeed.kinds_eq.1 hdeed.kinds_eq.2
        (fun keyed => (Shared.orderly_delete keyed kind scope name options).keyed)
        (MemoryCluster.keeps_of_delete kind scope name options).2
    | version | kinds | list => exact .of_become rfl rfl (fun keyed => keyed.congr rfl rfl) fun _ _ h => h
  rcases (Shared.server others).remembering_server r memo with hsame | hnext
  · rw [hsame]
    exact .refl _
  · rw [hnext]
    exact hserved

/-- A run that fetches, creates and patches nothing goes from state to later state. -/
theorem later_outcome (hothers : ∀ s, Relation.ReflTransGen Shared.Orderly s (others s)) {α : Type}
    {p : Program α} (hasks : p.Asks Request.TouchesNone) (memo : Memo Shared) :
    memo.server.Later (p.outcome (Shared.session others) memo).2.server ∧
      ∀ m ∈ p.moments (Shared.session others) memo, memo.server.Later m.2.server ∧
        m.2.server.Later (p.outcome (Shared.session others) memo).2.server :=
  moments_along _ (fun a b => a.server.Later b.server) (fun _ => .refl _) (fun h h' => h.trans h')
    (fun r memo h => later_answer hothers r memo h) hasks memo

/-- A listing is answered as things stand, before others act. -/
theorem answer_list (kind : KindInfo) (scope selector : Option String) (memo : Memo Shared) :
    (Shared.session others).answer (.list kind scope selector) memo =
      (memo.server.now.list kind scope selector, memo.afterList others) := rfl

/-- So is a deletion. -/
theorem answer_delete (kind : KindInfo) (scope : Option String) (name : String) (how : DeleteOptions)
    (memo : Memo Shared) :
    (Shared.session others).answer (.delete kind scope name how) memo =
      ((memo.server.now.delete kind scope name how).1,
        { memo with
          server := others (memo.server.become (memo.server.now.delete kind scope name how).2) }) := rfl

/-- A search takes down only what its own listings returned. -/
theorem caught_gather (hothers : ∀ s, Relation.ReflTransGen Shared.Orderly s (others s))
    (keyed : memo.server.now.Keyed) {tag : String} {seen : Seen} {found : Resource → Prop} {g : Gathering}
    (h : g.Caught tag seen found) (listings : List (KindInfo × Option String))
    (hserved : ∀ listing ∈ listings, listing.1 ∈ memo.server.now.kinds) :
    ∃ g' memo',
      (gather tag seen listings g).outcome (Shared.session others) memo = (.ok g', memo') ∧
      memo'.kinds = memo.kinds ∧
      g'.Caught tag seen fun r => found r ∨
        ∃ m ∈ (gather tag seen listings g).moments (Shared.session others) memo,
          Returns memo.server.now.kinds r m := by
  -- others act after every listing, so the rest is listed in a later cluster than the first
  induction listings generalizing g memo found with
  | nil => exact ⟨g, memo, rfl, rfl, h.mono fun r => .inl⟩
  | cons listing rest ih =>
    obtain ⟨kind, scope⟩ := listing
    have hlater := later_answer hothers (.list kind scope none) memo rfl
    have hkeyed : (memo.afterList others).server.now.Keyed := hlater.keyed keyed
    have hkinds : (memo.afterList others).server.now.kinds = memo.server.now.kinds := hlater.kinds
    have hrest : ∀ listing ∈ rest, listing.1 ∈ (memo.afterList others).server.now.kinds := by
      rw [hkinds]
      exact fun l hl => hserved l (List.mem_cons_of_mem _ hl)
    -- a listing that is refused returns nothing, and only counts
    by_cases hforbidden : (kind.gvk.kind, scope) ∈ memo.server.now.forbidden
    · have hlist : ∃ e, memo.server.now.list kind scope none = .error (.forbidden e) :=
        ⟨_, MemoryCluster.list_of_forbidden hforbidden _⟩
      obtain ⟨e, hlist⟩ := hlist
      obtain ⟨g', memo', houtcome, hstill, hcaught⟩ := @ih (memo.afterList others) hkeyed found
        { g with forbiddenLists := g.forbiddenLists + 1 } ⟨h.doomed, h.walked, h.nodup⟩ hrest
      refine ⟨g', memo', ?_, hstill, hcaught.mono fun r hr => hr.imp_right ?_⟩
      · rw [gather, outcome_bind, outcome_request, answer_list, hlist]
        exact houtcome
      · rintro ⟨m, hm, hreturns⟩
        refine ⟨m, ?_, hkinds ▸ hreturns⟩
        rw [gather, moments_bind, moments_request, outcome_request, answer_list, hlist]
        exact List.mem_cons_of_mem _ hm
    · have hlist : ∃ listed, memo.server.now.list kind scope none = .ok listed :=
        ⟨_, MemoryCluster.list_of_permitted hforbidden _⟩
      obtain ⟨listed, hlist⟩ := hlist
      have hreturns : ∀ r ∈ listed, Returns memo.server.now.kinds r (.list kind scope none, memo) :=
        fun r hr => ⟨kind, hserved _ List.mem_cons_self, scope, listed, rfl, hlist, hr⟩
      have hnow : ∀ r ∈ listed,
          (found r ∨ Returns memo.server.now.kinds r (.list kind scope none, memo)) ∧
            ∃ uid, r.uid? = some uid := by
        intro r hr
        obtain ⟨served, -, hobject⟩ := Returns.stored (m := (.list kind scope none, memo)) (hreturns r hr) keyed
        exact ⟨.inr (hreturns r hr), (keyed.fits _ r hobject).saved⟩
      obtain ⟨g', memo', houtcome, hstill, hcaught⟩ :=
        ih hkeyed ((h.mono fun r => .inl).foldl_visit hnow) hrest
      have hmoments : (gather tag seen ((kind, scope) :: rest) g).moments (Shared.session others) memo =
          (.list kind scope none, memo) ::
            (gather tag seen rest (listed.foldl (Gathering.visit tag seen) g)).moments
              (Shared.session others) (memo.afterList others) := by
        rw [gather, moments_bind, moments_request, outcome_request, answer_list, hlist]
        rfl
      refine ⟨g', memo', ?_, hstill, hcaught.mono fun r hr => ?_⟩
      · rw [gather, outcome_bind, outcome_request, answer_list, hlist]
        exact houtcome
      · rw [hmoments]
        rcases hr with (hr | hr) | ⟨m, hm, hr⟩
        · exact .inl hr
        · exact .inr ⟨_, List.mem_cons_self, hr⟩
        · exact .inr ⟨m, List.mem_cons_of_mem _ hm, hkinds ▸ hr⟩

/-- Asking for the version always succeeds. -/
theorem answered_version (others : Shared → Shared) (memo : Memo Shared) :
    ∃ version memo', (demand .version).outcome (Shared.session others) memo = (.ok version, memo') ∧
      memo'.kinds = memo.kinds := by
  rw [outcome_demand]
  rcases memo with ⟨s, known, kinds⟩
  cases known with
  | some version => exact ⟨version, _, rfl, rfl⟩
  | none => exact ⟨s.now.version, _, rfl, rfl⟩

/-- Asking for the kinds is answered with what the cluster serves, unless the session was told
otherwise before. -/
theorem answered_kinds (others : Shared → Shared) (memo : Memo Shared)
    (hknows : memo.kinds = none ∨ memo.kinds = some memo.server.now.kinds) :
    ∃ memo', (demand .kinds).outcome (Shared.session others) memo =
        (.ok memo.server.now.kinds, memo') ∧ memo'.kinds = some memo.server.now.kinds := by
  rw [outcome_demand]
  rcases memo with ⟨s, version, known⟩
  rcases hknows with h | h
  · obtain rfl : known = none := h
    exact ⟨_, rfl, rfl⟩
  · obtain rfl : known = some s.now.kinds := h
    exact ⟨_, rfl, rfl⟩

/-- Where it can be told where to search, it is told. -/
theorem answered_scopes (hothers : ∀ s, Relation.ReflTransGen Shared.Orderly s (others s))
    {options : CollectOptions} (hsearch : memo.server.now.CanSearch options) :
    ∃ scopes memo', (scopesToList options memo.server.now.kinds).outcome (Shared.session others) memo =
        (.ok scopes, memo') ∧ memo'.kinds = memo.kinds ∧ memo.server.Later memo'.server := by
  rw [scopesToList]
  cases hmode : options.effectiveMode with
  | clusterScope => exact ⟨[none], memo, rfl, rfl, .refl _⟩
  | perNamespace =>
    obtain ⟨kind, hkind, hforbidden⟩ := hsearch hmode
    obtain ⟨found, hlist, -⟩ := list_namespaces options.scopeSelector hkind hforbidden
    have hdemand : ((demand (.list kind none options.scopeSelector)).inContext "listing namespaces").outcome
        (Shared.session others) memo = (.ok found, memo.afterList others) := by
      rw [outcome_inContext_eq_ok, outcome_demand, answer_list, hlist]
    simp only [hkind]
    rw [outcome_bind_of_ok _ _ hdemand]
    exact ⟨_, _, rfl, rfl, later_answer hothers (.list kind none options.scopeSelector) memo rfl⟩

/-- The search for garbage succeeds, and takes down only what its own listings returned. -/
theorem caught_search (hothers : ∀ s, Relation.ReflTransGen Shared.Orderly s (others s))
    (keyed : memo.server.now.Keyed)
    (hknows : memo.kinds = none ∨ memo.kinds = some memo.server.now.kinds) {options : CollectOptions}
    (hsearch : memo.server.now.CanSearch options) (seen : Seen) :
    ∃ found memo',
      (search options seen).outcome (Shared.session others) memo = (.ok found, memo') ∧
      memo'.kinds = some found.kinds ∧ found.kinds = memo.server.now.kinds ∧
      found.gathering.Caught options.tag seen fun r =>
        ∃ m ∈ (search options seen).moments (Shared.session others) memo,
          Returns memo.server.now.kinds r m := by
  obtain ⟨version, asked, hversion, hasked⟩ := answered_version others memo
  have hlater : memo.server.Later asked.server := by
    have := (later_outcome hothers (asks_demand (r := .version) rfl) memo).1
    rwa [hversion] at this
  obtain ⟨told, hkinds, htold⟩ := answered_kinds others asked (by rwa [hasked, hlater.kinds])
  have hlater' : asked.server.Later told.server := by
    have := (later_outcome hothers (asks_demand (r := .kinds) rfl) asked).1
    rwa [hkinds] at this
  rw [← hlater'.kinds] at hkinds htold
  have htoldSearch : told.server.now.CanSearch options :=
    hsearch.congr (hlater.trans hlater').kinds (hlater.trans hlater').forbidden
  obtain ⟨scopes, between, hscopes, hbetween, hlater''⟩ := answered_scopes hothers htoldSearch
  obtain ⟨g, final, hgather, hfinal, hcaught⟩ := caught_gather hothers
    (((hlater.trans hlater').trans hlater'').keyed keyed)
    (Gathering.Caught.empty options.tag seen fun _ => False) (listings told.server.now.kinds scopes)
    (fun listing hlisting => hlater''.kinds ▸ (mem_listings.mp hlisting).1)
  rw [((hlater.trans hlater').trans hlater'').kinds] at hcaught
  refine ⟨⟨version, told.server.now.kinds, g⟩, final, ?_, ?_, (hlater.trans hlater').kinds, ?_⟩
  · rw [search, outcome_bind_of_ok _ _ hversion, outcome_bind_of_ok _ _ hkinds,
      outcome_bind_of_ok _ _ hscopes, outcome_bind_of_ok _ _ hgather]
    rfl
  · rw [hfinal, hbetween, htold]
  · refine hcaught.mono fun r hr => ?_
    obtain ⟨m, hm, hreturns⟩ := hr.resolve_left id
    refine ⟨m, ?_, hreturns⟩
    rw [search, moments_bind_of_ok _ _ hversion, moments_bind_of_ok _ _ hkinds,
      moments_bind_of_ok _ _ hscopes, moments_bind_of_ok _ _ hgather]
    exact List.mem_append_right _ (List.mem_append_right _ (List.mem_append_right _
      (List.mem_append_left _ hm)))

/-- The deletions of a run, each with the state of the session that it meets. -/
def deletions (server : Server (Memo Shared)) {α : Type} (p : Program α) (memo : Memo Shared) :
    List (Request × Memo Shared) := (p.moments server memo).filter (·.1.isDeletion)

/-- A program that asks for no deletion deletes nothing. -/
theorem deletions_eq_nil (server : Server (Memo Shared)) {α : Type} {p : Program α}
    (h : p.Asks fun r => r.isDeletion = false) (memo : Memo Shared) : p.deletions server memo = [] := by
  rw [deletions, List.filter_eq_nil_iff]
  intro m hm
  have hrequest : m.1 ∈ p.requests server memo := by
    rw [← map_fst_moments]
    exact List.mem_map_of_mem hm
  simp [allowed_of_asks server h memo m.1 hrequest]

/-- A program in two parts deletes what both delete where the first one succeeds. -/
theorem deletions_bind_of_ok (server : Server (Memo Shared)) {α β : Type} {p : Program α}
    {k : α → Program β} {a : α} (h : p.outcome server memo = (.ok a, memo')) :
    (p >>= k).deletions server memo = p.deletions server memo ++ (k a).deletions server memo' := by
  rw [deletions, moments_bind_of_ok _ _ h, List.filter_append]
  rfl

/-- The last step of a deletion: it is reported as done, or as raced. -/
def settle (description : String) (r : Resource) (report : CollectReport) :
    Except ApiError Unit → Program CollectReport
  | .ok _ => return { report with deleted := report.deleted ++ [r.identity] }
  | .error e =>
    if e.isNotFound || e.isConflict then return { report with raced := report.raced + 1 }
    else
      .fail ((Failure.ofCause (.api e)).inContext
        ("error deleting " ++ description ++ " (" ++ r.apiVersion ++ ")"))

/-- Collecting one object asks for its deletion under the uid that was listed. -/
theorem collectOne_eq (how : DeleteOptions) (r : Resource) (report : CollectReport) :
    collectOne how false r report = (do
      let description ← describe r
      tell (.collecting description r.apiVersion false)
      let kind ← resolve r.gvk
      let answer ← request (.delete kind r.scope? r.name (how.withUid r.uid?))
      settle description r report answer) := by
  rw [collectOne]
  congr 1
  funext description
  congr 1
  funext _
  rw [if_neg Bool.false_ne_true]
  congr 2
  funext kind
  congr 1
  funext answer
  cases answer <;> rfl

/-- A deletion that is answered, or fails because the object is gone or another one, is counted. -/
theorem settle_eq_pure (description : String) (r : Resource) (report : CollectReport)
    {answer : Except ApiError Unit} (h : ∀ e, answer = .error e → (e.isNotFound || e.isConflict) = true) :
    ∃ report', settle description r report answer = pure report' ∧
      report'.deleted.length = report.deleted.length + (if answer.isOk then 1 else 0) ∧
      report'.deleted.length + report'.raced = report.deleted.length + report.raced + 1 := by
  cases answer with
  | ok done => exact ⟨_, rfl, by simp [Except.isOk, Except.toBool], by simp; omega⟩
  | error e =>
    rw [settle, if_pos (h e rfl)]
    exact ⟨_, rfl, by simp [Except.isOk, Except.toBool], by simp; omega⟩

variable (others) in
/-- One piece of garbage costs one deletion, which either takes it away or counts as raced. -/
theorem swept_collectOne {kinds : List KindInfo} (hkinds : memo.kinds = some kinds) {r : Resource}
    {kind : KindInfo} (hkind : KindInfo.find kinds r.gvk = some kind) (how : DeleteOptions)
    (report : CollectReport) :
    let m : Request × Memo Shared := (.delete kind r.scope? r.name (how.withUid r.uid?), memo)
    ∃ report' memo',
      (collectOne how false r report).outcome (Shared.session others) memo = (.ok report', memo') ∧
      memo'.kinds = some kinds ∧
      (collectOne how false r report).deletions (Shared.session others) memo = [m] ∧
      report'.deleted.length = report.deleted.length + [m].countP (succeeds (Shared.session others)) ∧
      report'.deleted.length + report'.raced = report.deleted.length + report.raced + 1 := by
  intro m
  have hdescribe := outcome_describe (Shared.server others) hkinds r
  have htell := outcome_tell (Shared.session others) memo
    (.collecting (r.description (KindInfo.find kinds r.gvk)) r.apiVersion false)
  have hresolve := outcome_resolve (Shared.server others) hkinds hkind
  have hrequest := outcome_request (Shared.session others) memo m.1
  have hkindless : Request.isDeletion .kinds = false := rfl
  -- a condition on the uid makes a failed deletion a race and nothing else
  have hmissed : ∀ e, (memo.server.now.delete kind r.scope? r.name (how.withUid r.uid?)).1 = .error e →
      (e.isNotFound || e.isConflict) = true := by
    intro e he
    obtain ⟨e', hmissed, hdelete⟩ | ⟨current, -, -, hdelete⟩ :=
      MemoryCluster.delete_cases (c := memo.server.now) kind r.scope? r.name (how.withUid r.uid?)
    · rw [hdelete] at he
      exact Except.error.inj he ▸ hmissed
    · rw [hdelete] at he
      contradiction
  obtain ⟨report', hsettle, hdeleted, htotal⟩ :=
    settle_eq_pure (r.description (KindInfo.find kinds r.gvk)) r report hmissed
  refine ⟨report', { memo with server := others (memo.server.become
    (memo.server.now.delete kind r.scope? r.name (how.withUid r.uid?)).2) }, ?_, hkinds, ?_, ?_, htotal⟩
  · rw [collectOne_eq, outcome_bind_of_ok _ _ hdescribe, outcome_bind_of_ok _ _ htell,
      outcome_bind_of_ok _ _ hresolve, outcome_bind_of_ok _ _ hrequest, answer_delete]
    exact congrArg (outcome (Shared.session others) · _) hsettle
  · rw [collectOne_eq, deletions_bind_of_ok _ hdescribe, deletions_bind_of_ok _ htell,
      deletions_bind_of_ok _ hresolve, deletions_bind_of_ok _ hrequest, answer_delete,
      deletions_eq_nil _ (asks_describe hkindless r), deletions_eq_nil _ (asks_resolve hkindless r.gvk)]
    dsimp only
    rw [hsettle]
    rfl
  · rw [hdeleted, List.countP_singleton]
    rfl

/-- A deletion of an object that was taken down. -/
def Takes (kinds : List KindInfo) (how : DeleteOptions) (r : Resource) (m : Request × Memo Shared) : Prop :=
  ∃ kind, KindInfo.find kinds r.gvk = some kind ∧
    m.1 = .delete kind r.scope? r.name (how.withUid r.uid?)

variable (others) in
/-- All garbage is swept with one deletion for each piece. -/
theorem swept_collectAll {kinds : List KindInfo} (hkinds : memo.kinds = some kinds) {doomed : List Resource}
    (hserved : ∀ r ∈ doomed, ∃ kind, KindInfo.find kinds r.gvk = some kind) (how : DeleteOptions)
    (report : CollectReport) :
    let deletions := (collectAll how false doomed report).deletions (Shared.session others) memo
    ∃ report' memo',
      (collectAll how false doomed report).outcome (Shared.session others) memo = (.ok report', memo') ∧
      List.Forall₂ (Takes kinds how) doomed deletions ∧
      report'.deleted.length =
        report.deleted.length + deletions.countP (succeeds (Shared.session others)) ∧
      report'.deleted.length + report'.raced =
        report.deleted.length + report.raced + deletions.length := by
  induction doomed generalizing memo report with
  | nil => exact ⟨report, memo, rfl, .nil, rfl, rfl⟩
  | cons r rest ih =>
    obtain ⟨kind, hkind⟩ := hserved r List.mem_cons_self
    obtain ⟨between, memo₁, hone, hstill, hdeletion, hcount, htotal⟩ :=
      swept_collectOne others hkinds hkind how report
    obtain ⟨report', memo', hall, htakes, hcounts, htotals⟩ :=
      ih hstill (fun x hx => hserved x (List.mem_cons_of_mem _ hx)) between
    have hsplit : (collectAll how false (r :: rest) report).deletions (Shared.session others) memo =
        (.delete kind r.scope? r.name (how.withUid r.uid?), memo) ::
          (collectAll how false rest between).deletions (Shared.session others) memo₁ := by
      rw [collectAll, deletions_bind_of_ok _ hone, hdeletion]
      rfl
    refine ⟨report', memo', ?_, ?_, ?_, ?_⟩
    · rw [collectAll, outcome_bind_of_ok _ _ hone, hall]
    · rw [hsplit]
      exact .cons ⟨kind, hkind, rfl⟩ htakes
    · rw [hsplit, List.countP_cons, hcounts, hcount, List.countP_singleton]
      omega
    · rw [hsplit, htotals, htotal, List.length_cons]
      omega

/-- A sweep depends on the uids of what was taken down, each in its turn. -/
theorem conditions_of_takes {kinds : List KindInfo} {how : DeleteOptions} {doomed : List Resource}
    {deletions : List (Request × Memo Shared)} (h : List.Forall₂ (Takes kinds how) doomed deletions) :
    deletions.map (·.1.condition?) = doomed.map Resource.uid? := by
  induction h with
  | nil => rfl
  | cons htakes _ ih =>
    obtain ⟨kind, -, hrequest⟩ := htakes
    rw [List.map_cons, List.map_cons, ih, hrequest]
    rfl

/-- Each deletion is of an object that was taken down. -/
theorem taken_of_takes {kinds : List KindInfo} {how : DeleteOptions} {doomed : List Resource}
    {deletions : List (Request × Memo Shared)} (h : List.Forall₂ (Takes kinds how) doomed deletions)
    {m : Request × Memo Shared} (hm : m ∈ deletions) : ∃ r ∈ doomed, Takes kinds how r m := by
  induction h with
  | nil => simp at hm
  | cons htakes _ ih =>
    rcases List.mem_cons.mp hm with rfl | hm
    · exact ⟨_, List.mem_cons_self, htakes⟩
    · obtain ⟨r, hr, htaken⟩ := ih hm
      exact ⟨r, List.mem_cons_of_mem _ hr, htaken⟩

/-- What a search asks before a later deletion. -/
theorem before_deletion {first second before after : List (Request × Memo Shared)}
    {m : Request × Memo Shared} (hsplit : first ++ second = before ++ m :: after) (hm : m ∉ first) :
    m ∈ second ∧ ∀ x ∈ first, x ∈ before := by
  rcases List.append_eq_append_iff.mp hsplit with ⟨more, hbefore, hsecond⟩ | ⟨more, hfirst, hafter⟩
  · exact ⟨by simp [hsecond], fun x hx => by simp [hbefore, hx]⟩
  · cases more with
    | nil =>
      rw [List.append_nil] at hfirst
      rw [List.nil_append] at hafter
      exact ⟨by simp [← hafter], fun x hx => hfirst ▸ hx⟩
    | cons y more =>
      obtain rfl : m = y := (List.cons.inj hafter).1
      exact absurd (by simp [hfirst]) hm

/-- A collection finds garbage and sweeps it, with one deletion for each piece. -/
structure Swept (others : Shared → Shared) (options : CollectOptions) (seen : Seen) (table : RankTable)
    (memo : Memo Shared) (found : Found) (between : Memo Shared) (report : CollectReport)
    (doomed : List Resource) (deletions : List (Request × Memo Shared)) : Prop where
  searched : (search options seen).outcome (Shared.session others) memo = (.ok found, between)
  ended : ((collect options seen table).outcome (Shared.session others) memo).1 = .ok report
  deletions_eq : (collect options seen table).deletions (Shared.session others) memo = deletions
  swept : (sweep options table found).deletions (Shared.session others) between = deletions
  perm : doomed.Perm found.gathering.doomed
  caught : found.gathering.Caught options.tag seen fun r =>
    ∃ m ∈ (search options seen).moments (Shared.session others) memo, Returns memo.server.now.kinds r m
  takes : List.Forall₂ (Takes memo.server.now.kinds (.forVersion found.version)) doomed deletions
  deleted : report.deleted.length = deletions.countP (succeeds (Shared.session others))
  total : report.deleted.length + report.raced = deletions.length

/-- The listings of a search, and its end, come after its beginning. -/
theorem later_search (hothers : ∀ s, Relation.ReflTransGen Shared.Orderly s (others s))
    (options : CollectOptions) (seen : Seen) (memo : Memo Shared) :
    memo.server.Later ((search options seen).outcome (Shared.session others) memo).2.server ∧
      ∀ m ∈ (search options seen).moments (Shared.session others) memo,
        memo.server.Later m.2.server ∧
          m.2.server.Later ((search options seen).outcome (Shared.session others) memo).2.server := by
  refine later_outcome hothers (asks_search ?_ ?_ (fun _ _ _ => ?_) options seen) memo <;> rfl

/-- Looking for garbage deletes nothing. -/
theorem asks_search_undeleting (options : CollectOptions) (seen : Seen) :
    (search options seen).Asks fun r => r.isDeletion = false := by
  refine asks_search ?_ ?_ (fun _ _ _ => ?_) options seen <;> rfl

/-- What was returned by a listing of a search is found there under its key. -/
theorem stored_of_returns (hothers : ∀ s, Relation.ReflTransGen Shared.Orderly s (others s))
    (keyed : memo.server.now.Keyed) {options : CollectOptions} {seen : Seen} {r : Resource}
    {m : Request × Memo Shared}
    (hm : m ∈ (search options seen).moments (Shared.session others) memo)
    (h : Returns memo.server.now.kinds r m) :
    ∃ kind, KindInfo.find memo.server.now.kinds r.gvk = some kind ∧
      m.2.server.now.objects.get? (keyOf kind r) = some r := by
  have hlater := ((later_search hothers options seen memo).2 m hm).1
  rw [← hlater.kinds] at h ⊢
  exact h.stored (hlater.keyed keyed)

/-- A collection succeeds. -/
theorem swept_collect (hothers : ∀ s, Relation.ReflTransGen Shared.Orderly s (others s))
    (keyed : memo.server.now.Keyed)
    (hknows : memo.kinds = none ∨ memo.kinds = some memo.server.now.kinds) {options : CollectOptions}
    (hdry : options.dryRun = false) (hsearch : memo.server.now.CanSearch options) (seen : Seen)
    (table : RankTable) :
    ∃ found between report doomed deletions,
      Swept others options seen table memo found between report doomed deletions := by
  obtain ⟨found, between, hfound, hkinds, hserved, hcaught⟩ :=
    caught_search hothers keyed hknows hsearch seen
  have hperm := deletionOrder_perm table (KindInfo.scopes found.kinds) found.gathering.doomed
  have hreturned : ∀ r ∈ deletionOrder table (KindInfo.scopes found.kinds) found.gathering.doomed,
      ∃ kind, KindInfo.find found.kinds r.gvk = some kind := by
    intro r hr
    obtain ⟨⟨m, hm, hreturns⟩, -⟩ := hcaught.doomed r (hperm.mem_iff.mp hr)
    obtain ⟨kind, hkind, -⟩ := stored_of_returns hothers keyed hm hreturns
    exact ⟨kind, hserved ▸ hkind⟩
  obtain ⟨report, final, hall, htakes, hcount, htotal⟩ := swept_collectAll others hkinds
    hreturned (.forVersion found.version)
    { considered := found.gathering.considered, deleted := [], wouldDelete := [], raced := 0
      forbiddenLists := found.gathering.forbiddenLists }
  have hsweep : sweep options table found =
      collectAll (.forVersion found.version) false
        (deletionOrder table (KindInfo.scopes found.kinds) found.gathering.doomed)
        { considered := found.gathering.considered, deleted := [], wouldDelete := [], raced := 0
          forbiddenLists := found.gathering.forbiddenLists } := by rw [sweep, hdry]
  rw [← hsweep] at hall htakes hcount htotal
  refine ⟨found, between, report, _, _, hfound, ?_, ?_, rfl, hperm, hcaught, hserved ▸ htakes, ?_, ?_⟩
  · rw [collect_eq_phases, outcome_bind_of_ok _ _ hfound, hall]
  · rw [collect_eq_phases, deletions_bind_of_ok _ hfound,
      deletions_eq_nil _ (asks_search_undeleting options seen), List.nil_append]
  · simpa using hcount
  · simpa using htotal

/-- Garbage collection is safe among other clients, whatever orderly clients do between its requests.
It succeeds, and every deletion is counted as done or as raced. No two deletions depend on the same
uid. What a deletion takes away was returned by an earlier listing of the run, eligible and not seen,
and stood in its place ever since: an object that was created anew is never taken away. -/
theorem collect_among_others (hothers : ∀ s, Relation.ReflTransGen Shared.Orderly s (others s))
    (hnew : memo.server.past = []) (keyed : memo.server.now.Keyed)
    (hknows : memo.kinds = none ∨ memo.kinds = some memo.server.now.kinds) {options : CollectOptions}
    (hdry : options.dryRun = false) (hsearch : memo.server.now.CanSearch options) (seen : Seen)
    (table : RankTable) :
    let deletions := (collect options seen table).deletions (Shared.session others) memo
    (∃ report, ((collect options seen table).outcome (Shared.session others) memo).1 = .ok report ∧
      report.deleted.length = deletions.countP (succeeds (Shared.session others)) ∧
      report.deleted.length + report.raced = deletions.length) ∧
    ((deletions.map (·.1.condition?)).Nodup ∧ ∀ m ∈ deletions, ∃ uid, m.1.condition? = some uid) ∧
    ∀ before after kind scope name how s x,
      (collect options seen table).moments (Shared.session others) memo =
        before ++ (.delete kind scope name how, s) :: after →
      s.server.now.objects.get? (key kind scope name) = some x →
      (s.server.now.delete kind scope name how).1 = .ok () →
      ∃ m ∈ before, ∃ r, Returns memo.server.now.kinds r m ∧ r.isEligible options.tag = true ∧
        seen.contains r = false ∧ r.uid? = x.uid? ∧
        m.2.server.now.objects.get? (key kind scope name) = some r ∧
        ∃ recent, s.server.history = recent ++ m.2.server.history ∧
          ∀ c ∈ recent, ∃ y, c.objects.get? (key kind scope name) = some y ∧ y.uid? = r.uid? := by
  intro deletions
  obtain ⟨found, between, report, doomed, swept, h⟩ :=
    swept_collect hothers keyed hknows hdry hsearch seen table
  have hdeletions : deletions = swept := h.deletions_eq
  rw [hdeletions]
  refine ⟨⟨report, h.ended, h.deleted, h.total⟩, ⟨?_, fun m hm => ?_⟩, ?_⟩
  · rw [conditions_of_takes h.takes]
    exact (h.perm.map Resource.uid?).nodup_iff.mpr h.caught.nodup
  · have hcondition : m.1.condition? ∈ doomed.map Resource.uid? := by
      rw [← conditions_of_takes h.takes]
      exact List.mem_map_of_mem hm
    obtain ⟨r, hr, hsame⟩ := List.mem_map.mp hcondition
    obtain ⟨uid, -, huid⟩ := h.caught.walked r (h.perm.mem_iff.mp hr)
    exact ⟨uid, hsame.symm.trans huid⟩
  · intro before after kind scope name how s x hsplit hx hdeleted
    rw [collect_eq_phases, moments_bind_of_ok _ _ h.searched] at hsplit
    -- the search deletes nothing, so the deletion is one of the second phase
    have hunsearched : (Request.delete kind scope name how, s) ∉
        (search options seen).moments (Shared.session others) memo := by
      intro hmem
      have hrequest : Request.delete kind scope name how ∈
          (search options seen).requests (Shared.session others) memo := by
        rw [← map_fst_moments]
        exact List.mem_map_of_mem hmem
      exact Bool.noConfusion (allowed_of_asks _ (asks_search_undeleting options seen) memo _ hrequest)
    obtain ⟨hmoment, hbefore⟩ := before_deletion hsplit hunsearched
    have hmember : (Request.delete kind scope name how, s) ∈ swept := by
      rw [← h.swept]
      exact List.mem_filter.mpr ⟨hmoment, rfl⟩
    obtain ⟨r, hr, served, hserved, hrequest⟩ := taken_of_takes h.takes hmember
    obtain ⟨rfl, rfl, rfl, rfl⟩ := Request.delete.inj hrequest
    obtain ⟨⟨m, hm, hreturns⟩, heligible, hunseen⟩ := h.caught.doomed r (h.perm.mem_iff.mp hr)
    obtain ⟨uid, -, huid⟩ := h.caught.walked r (h.perm.mem_iff.mp hr)
    obtain ⟨kind', hkind', hstored⟩ := stored_of_returns hothers keyed hm hreturns
    obtain rfl : kind = kind' := Option.some.inj (hserved.symm.trans hkind')
    -- the deletion went through, so the object there has the uid that was listed
    have hsame : x.uid? = r.uid? := by
      obtain ⟨e, -, hfailed⟩ | ⟨current, hcurrent, hagrees, -⟩ :=
        MemoryCluster.delete_cases (c := s.server.now) kind r.scope? r.name
          ((DeleteOptions.forVersion found.version).withUid r.uid?)
      · rw [hfailed] at hdeleted
        contradiction
      · obtain rfl : x = current := Option.some.inj (hx.symm.trans hcurrent)
        exact (hagrees uid huid).trans huid.symm
    -- an object with that uid was there when it was listed and is there now, hence all the time between
    obtain ⟨hstart, hlistings⟩ := later_search hothers options seen memo
    rw [h.searched] at hstart hlistings
    have hend := ((later_outcome hothers (asks_collectAll _ _ _ _) between).2 _ hmoment).1
    have honest : Honest s.server.history := by
      refine (hstart.trans hend).honest keyed ?_
      rw [Shared.history, hnew]
      exact .first _
    exact ⟨m, hbefore m hm, r, hreturns, heligible, hunseen, hsame.symm, hstored,
      ((hlistings m hm).2.trans hend).held_since honest hstored hx hsame⟩

/-- When garbage is created anew after all listings, its deletion is raced. -/
theorem collect_among_others_recreating :
    let configMap (metadata : Fields) : Fields :=
      [("apiVersion", .string "v1"), ("kind", .string "ConfigMap"), ("metadata", .object metadata)]
    let tagged : Json := .object [(AnnotationKey.gcTag, .string "t")]
    let object : Resource :=
      ⟨configMap [("annotations", tagged), ("name", .string "a"), ("namespace", .string "default")],
        by decide, by decide, by decide⟩
    let kind : KindInfo := ⟨⟨"", "v1", "ConfigMap"⟩, "configmaps", .namespaced, KindInfo.everyVerb⟩
    let start := (MemoryCluster.empty MemoryCluster.standardKinds ⟨1, 28⟩).afterCreate kind object
    let others := Shared.recreate start kind object 11
    let run := (collect ⟨"t", .clusterScope, none, false⟩ .empty .standard).outcome (Shared.session others)
      { server := ⟨start, []⟩ }
    ∃ report, run.1 = .ok report ∧ report.deleted = [] ∧ report.raced = 1 := by
  intro configMap tagged object kind start others run
  have hempty : (MemoryCluster.empty MemoryCluster.standardKinds ⟨1, 28⟩).Sound :=
    MemoryCluster.sound_empty (by decide) _
  have hsound : start.Sound := hempty.create (by decide) (by decide)
  have hothers : ∀ s, Relation.ReflTransGen Shared.Orderly s (others s) :=
    Shared.orderly_recreate hsound (by decide) (by decide) (by decide) 11
  let memo : Memo Shared := { server := ⟨start, []⟩ }
  let options : CollectOptions := ⟨"t", .clusterScope, none, false⟩
  have hraced : ((collect options .empty .standard).deletions (Shared.session others) memo).length = 1 ∧
      ((collect options .empty .standard).deletions (Shared.session others) memo).countP
        (succeeds (Shared.session others)) = 0 := by decide +kernel
  obtain ⟨⟨report, hok, hdeleted, htotal⟩, -, -⟩ :=
    @collect_among_others others memo hothers rfl hsound.keyed (.inl rfl) options rfl nofun .empty .standard
  rw [hraced.2] at hdeleted
  rw [hraced.1, hdeleted] at htotal
  exact ⟨report, hok, List.eq_nil_of_length_eq_zero hdeleted, by omega⟩

end Others

end Program

end Reconcile

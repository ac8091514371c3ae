import Reconcile.Proofs.Command.Seen

/-!
# What the search for garbage finds

Garbage is defined by the state of the cluster alone: an object of a kind that can be listed, reached
by a listing that is permitted, eligible under the tag and not handled in the run. The search finds
all of it and takes each piece down once, whatever the number and the order of the listings.
-/

namespace Reconcile

open MemoryCluster (session)

namespace MemoryCluster

/-- The names of the namespaces that a selector fits. -/
def namespaces (selector : Option String) (c : MemoryCluster) : List String :=
  ((c.objects.filter fun entry => entry.1.gvk == ⟨"", "v1", "Namespace"⟩).filter fun entry =>
    selector.all fun text => (Selector.parse text).holds entry.2).map (·.2.name)

/-- Whether a permitted listing reaches the object under an identity: the one across all namespaces
for kinds without any and in cluster scope, the one in its own namespace otherwise. -/
def isReached (options : CollectOptions) (kind : KindInfo) (id : Identity) (c : MemoryCluster) : Bool :=
  if kind.isNamespaced && options.effectiveMode = .perNamespace then
    (c.namespaces options.scopeSelector).any fun ns =>
      id.scope = some ns && (kind.gvk.kind, some ns) ∉ c.forbidden
  else (kind.gvk.kind, none) ∉ c.forbidden

/-- Whether it can be told where to search: in all namespaces at once, or because these can be
listed. -/
def CanSearch (options : CollectOptions) (c : MemoryCluster) : Prop :=
  options.effectiveMode = .perNamespace →
    ∃ kind, KindInfo.find c.kinds ⟨"", "v1", "Namespace"⟩ = some kind ∧
      (kind.gvk.kind, none) ∉ c.forbidden

/-- Whether a search is allowed depends on the kinds and on what is forbidden alone. -/
theorem CanSearch.congr {options : CollectOptions} {c c' : MemoryCluster} (h : c.CanSearch options)
    (hkinds : c'.kinds = c.kinds) (hforbidden : c'.forbidden = c.forbidden) : c'.CanSearch options := by
  rw [CanSearch, hkinds, hforbidden]
  exact h

/-- Where to search for garbage. -/
def searched (options : CollectOptions) (c : MemoryCluster) : List (Option String) :=
  match options.effectiveMode with
  | .clusterScope => [none]
  | .perNamespace => (c.namespaces options.scopeSelector).map some

/-- Whether an entry is garbage when the objects under some identities were applied. -/
def isGarbage (options : CollectOptions) (applied : List Identity) (c : MemoryCluster)
    (entry : Identity × Resource) : Bool :=
  (KindInfo.find c.kinds entry.1.gvk).any fun kind =>
    kind.supports "list" && c.isReached options kind entry.1 && entry.2.isEligible options.tag
      && entry.1 ∉ applied

/-- A listing that is not permitted fails. -/
theorem list_of_forbidden {c : MemoryCluster} {kind : KindInfo} {scope : Option String}
    (h : (kind.gvk.kind, scope) ∈ c.forbidden) (selector : Option String) :
    c.list kind scope selector =
      .error (.forbidden ("cannot list " ++ kind.plural ++ " in " ++ Text.quotedOption scope)) := by
  rw [list, if_pos (List.contains_iff_mem.mpr h)]

/-- Any other finds the objects of the kind, in the namespace and with the labels that it asks for. -/
theorem list_of_permitted {c : MemoryCluster} {kind : KindInfo} {scope : Option String}
    (h : (kind.gvk.kind, scope) ∉ c.forbidden) (selector : Option String) :
    c.list kind scope selector =
      .ok ((Store.objects (c.objects.filter fun entry =>
        entry.1.gvk == kind.gvk && (scope.isNone || entry.1.scope == scope))).filter fun object =>
          selector.all fun text => (Selector.parse text).holds object) := by
  rw [list, if_neg (h ∘ List.contains_iff_mem.mp)]

/-- The objects that a listing finds, none if it is not permitted. -/
def listed (c : MemoryCluster) (listing : KindInfo × Option String) : List Resource :=
  ((c.list listing.1 listing.2 none).toOption).getD []

/-- A listing that is not permitted finds none. -/
theorem listed_of_forbidden {c : MemoryCluster} {kind : KindInfo} {scope : Option String}
    (h : (kind.gvk.kind, scope) ∈ c.forbidden) : c.listed (kind, scope) = [] := by
  rw [listed, list_of_forbidden h]
  rfl

/-- Every permitted listing finds the objects of its kind in its namespace. -/
theorem listed_of_permitted {c : MemoryCluster} {kind : KindInfo} {scope : Option String}
    (h : (kind.gvk.kind, scope) ∉ c.forbidden) :
    c.listed (kind, scope) = Store.objects (c.objects.filter fun entry =>
      entry.1.gvk == kind.gvk && (scope.isNone || entry.1.scope == scope)) := by
  rw [listed, list_of_permitted h]
  exact List.filter_true _

/-- What a listing finds is of its kind and in its namespace. -/
theorem mem_listed {c : MemoryCluster} {listing : KindInfo × Option String} {r : Resource} :
    r ∈ c.listed listing ↔
      (listing.1.gvk.kind, listing.2) ∉ c.forbidden ∧
        ∃ id, (id, r) ∈ c.objects ∧ id.gvk = listing.1.gvk ∧ (listing.2 = none ∨ id.scope = listing.2) := by
  by_cases hforbidden : (listing.1.gvk.kind, listing.2) ∈ c.forbidden
  · simp [listed_of_forbidden hforbidden, hforbidden]
  · rw [listed_of_permitted hforbidden]
    simp only [hforbidden, not_false_eq_true, true_and, Store.objects, List.mem_filter, List.mem_map,
      Bool.and_eq_true, beq_iff_eq, Bool.or_eq_true, Option.isNone_iff_eq_none]
    constructor
    · rintro ⟨⟨id, object⟩, hentry, rfl⟩
      exact ⟨id, hentry⟩
    · rintro ⟨id, hentry⟩
      exact ⟨(id, r), hentry, rfl⟩

end MemoryCluster

/-- What has become of the search for garbage after some objects were looked at: each is taken down
once if it is eligible and was not seen. -/
structure Gathering.Searched (tag : String) (seen : Seen) (visited : List Resource) (g : Gathering) :
    Prop where
  walked : ∀ uid, uid ∈ g.walked ↔ ∃ r ∈ visited, r.uid? = some uid
  doomed : ∀ r, r ∈ g.doomed ↔ r ∈ visited ∧ r.isEligible tag = true ∧ seen.contains r = false
  nodup : (g.doomed.map Resource.uid?).Nodup

namespace Gathering

variable {tag : String} {seen : Seen} {g : Gathering} {r : Resource} {uid : String}

/-- An object that was looked at before is passed over. -/
theorem visit_of_walked (huid : r.uid? = some uid) (h : uid ∈ g.walked) : g.visit tag seen r = g := by
  simp only [visit, huid, if_pos h]

/-- An object that was not looked at before is noted, and taken down if it is garbage. -/
theorem visit_of_new (huid : r.uid? = some uid) (h : uid ∉ g.walked) :
    g.visit tag seen r =
      { considered := g.considered + 1
        forbiddenLists := g.forbiddenLists
        walked := uid :: g.walked
        doomed := if r.isEligible tag && !seen.contains r then g.doomed ++ [r] else g.doomed } := by
  simp only [visit, huid, if_neg h, visit.consider]

/-- Looking at an object takes down that object at most, and only if it is garbage. -/
theorem mem_doomed_visit {x : Resource} (h : x ∈ (g.visit tag seen r).doomed) :
    x ∈ g.doomed ∨ (x = r ∧ r.isEligible tag = true ∧ seen.contains r = false) := by
  have hconsidered {g : Gathering} (h : x ∈ (visit.consider tag seen r g).doomed) :
      x ∈ g.doomed ∨ (x = r ∧ r.isEligible tag = true ∧ seen.contains r = false) := by
    simp only [visit.consider] at h
    split at h
    next htaken =>
      rcases List.mem_append.mp h with h | h
      · exact .inl h
      · exact .inr ⟨List.mem_singleton.mp h, by simpa using htaken⟩
    next => exact .inl h
  rw [visit] at h
  split at h
  · split at h
    · exact .inl h
    · exact hconsidered h
  · exact hconsidered h

namespace Searched

variable {visited : List Resource}

/-- Before anything was visited nothing is searched. -/
theorem empty (tag : String) (seen : Seen) : Gathering.empty.Searched tag seen [] :=
  ⟨by simp [Gathering.empty], by simp [Gathering.empty], by simp [Gathering.empty]⟩

/-- Looking at an object again changes nothing. -/
theorem again (h : g.Searched tag seen visited) (hr : r ∈ visited) :
    g.Searched tag seen (visited ++ [r]) := by
  have hmem (x : Resource) : x ∈ visited ++ [r] ↔ x ∈ visited := by
    rw [List.mem_append, List.mem_singleton, or_iff_left_iff_imp]
    rintro rfl
    exact hr
  refine ⟨fun uid => ?_, fun x => ?_, h.nodup⟩
  · simp only [hmem, h.walked]
  · rw [hmem, h.doomed]

/-- With an object more, its uid is among those that were met. -/
theorem mem_walked_snoc (h : g.Searched tag seen visited) (huid : r.uid? = some uid) (other : String) :
    other ∈ uid :: g.walked ↔ ∃ x ∈ visited ++ [r], x.uid? = some other := by
  rw [List.mem_cons, h.walked]
  constructor
  · rintro (rfl | ⟨x, hx, hxuid⟩)
    · exact ⟨r, by simp, huid⟩
    · exact ⟨x, List.mem_append_left _ hx, hxuid⟩
  · rintro ⟨x, hx, hxuid⟩
    rcases List.mem_append.mp hx with hx | hx
    · exact .inr ⟨x, hx, hxuid⟩
    · obtain rfl := List.mem_singleton.mp hx
      rw [huid, Option.some.injEq] at hxuid
      exact .inl hxuid.symm

/-- Looking at one object more. Objects are told apart by their uids. -/
theorem visit (h : g.Searched tag seen visited) (huid : r.uid? = some uid)
    (hsame : ∀ other ∈ visited, other.uid? = r.uid? → other = r) :
    (g.visit tag seen r).Searched tag seen (visited ++ [r]) := by
  -- whoever was visited under this uid is the same object
  by_cases hwalked : uid ∈ g.walked
  · obtain ⟨other, hother, hotherUid⟩ := (h.walked uid).mp hwalked
    obtain rfl := hsame other hother (hotherUid.trans huid.symm)
    rw [visit_of_walked huid hwalked]
    exact h.again hother
  · have hnew : ∀ x ∈ g.doomed, x.uid? ≠ r.uid? := by
      intro x hx heq
      exact hwalked ((h.walked uid).mpr ⟨x, ((h.doomed x).mp hx).1, heq.trans huid⟩)
    rw [visit_of_new huid hwalked]
    by_cases htaken : r.isEligible tag = true ∧ seen.contains r = false
    · rw [if_pos (by simp [htaken])]
      refine ⟨h.mem_walked_snoc huid, fun x => ?_, ?_⟩
      · rw [List.mem_append, List.mem_append, List.mem_singleton, h.doomed]
        constructor
        · rintro (⟨hx, hxtaken⟩ | rfl)
          · exact ⟨.inl hx, hxtaken⟩
          · exact ⟨.inr rfl, htaken⟩
        · rintro ⟨hx | rfl, hxtaken⟩
          · exact .inl ⟨hx, hxtaken⟩
          · exact .inr rfl
      · rw [List.map_append, List.nodup_append]
        refine ⟨h.nodup, by simp, ?_⟩
        intro a ha b hb
        obtain ⟨x, hx, rfl⟩ := List.mem_map.mp ha
        obtain rfl : b = r.uid? := by simpa using hb
        exact hnew x hx
    · rw [if_neg (by simpa using htaken)]
      refine ⟨h.mem_walked_snoc huid, fun x => ?_, h.nodup⟩
      rw [List.mem_append, List.mem_singleton, h.doomed]
      constructor
      · rintro ⟨hx, hxtaken⟩
        exact ⟨.inl hx, hxtaken⟩
      · rintro ⟨hx | rfl, hxtaken⟩
        · exact ⟨hx, hxtaken⟩
        · exact absurd hxtaken htaken

/-- Looking at several objects of a sound cluster. -/
theorem foldl_visit {c : MemoryCluster} (sound : c.Sound) (found : List Resource)
    (h : g.Searched tag seen visited)
    (hvisited : ∀ r ∈ visited ++ found, ∃ id, c.objects.get? id = some r) :
    (found.foldl (Gathering.visit tag seen) g).Searched tag seen (visited ++ found) := by
  induction found generalizing g visited with
  | nil => simpa using h
  | cons r rest ih =>
    have happend : visited ++ r :: rest = visited ++ [r] ++ rest := by simp
    obtain ⟨id, hr⟩ := hvisited r (by simp)
    obtain ⟨uid, huid⟩ := (sound.fits id r hr).saved
    have hone := h.visit huid fun other hother heq => by
      obtain ⟨otherId, hotherObject⟩ := hvisited other (List.mem_append_left _ hother)
      obtain rfl := sound.distinct otherId id other r hotherObject hr heq
      rw [hr, Option.some.injEq] at hotherObject
      exact hotherObject.symm
    rw [happend] at hvisited ⊢
    exact ih hone hvisited

end Searched

end Gathering

namespace Program

variable {memo : Memo MemoryCluster}

/-- What becomes of a search that goes through one listing of a cluster. -/
def gatheredFrom (c : MemoryCluster) (tag : String) (seen : Seen) (g : Gathering)
    (listing : KindInfo × Option String) : Gathering :=
  (c.listed listing).foldl (Gathering.visit tag seen)
    { g with
      forbiddenLists :=
        g.forbiddenLists + if (listing.1.gvk.kind, listing.2) ∈ c.forbidden then 1 else 0 }

/-- A search goes through what its listings find, one after the other. -/
theorem outcome_gather (tag : String) (seen : Seen) (listings : List (KindInfo × Option String))
    (g : Gathering) :
    (gather tag seen listings g).outcome session memo =
      (.ok (listings.foldl (gatheredFrom memo.server tag seen) g), memo) := by
  induction listings generalizing g with
  | nil => rfl
  | cons listing rest ih =>
    obtain ⟨kind, scope⟩ := listing
    have hanswer : session.answer (.list kind scope none) memo =
        (memo.server.list kind scope none, memo) := rfl
    rw [gather, outcome_bind, outcome_request, hanswer, List.foldl_cons]
    by_cases hforbidden : (kind.gvk.kind, scope) ∈ memo.server.forbidden
    · rw [MemoryCluster.list_of_forbidden hforbidden, gatheredFrom,
        MemoryCluster.listed_of_forbidden hforbidden, if_pos hforbidden]
      exact ih _
    · obtain ⟨found, hlist⟩ : ∃ found, memo.server.list kind scope none = .ok found :=
        ⟨_, MemoryCluster.list_of_permitted hforbidden _⟩
      have hlisted : memo.server.listed (kind, scope) = found := by rw [MemoryCluster.listed, hlist]; rfl
      rw [hlist, gatheredFrom, hlisted, if_neg hforbidden]
      exact ih _

/-- A search through listings looks at all that they find. -/
theorem searched_gathered {c : MemoryCluster} (sound : c.Sound) {tag : String} {seen : Seen}
    {visited : List Resource} {g : Gathering} (h : g.Searched tag seen visited)
    (hvisited : ∀ r ∈ visited, ∃ id, c.objects.get? id = some r)
    (listings : List (KindInfo × Option String)) :
    (listings.foldl (gatheredFrom c tag seen) g).Searched tag seen
      (visited ++ listings.flatMap c.listed) := by
  induction listings generalizing g visited with
  | nil => simpa using h
  | cons listing rest ih =>
    have hfound : ∀ r ∈ visited ++ c.listed listing, ∃ id, c.objects.get? id = some r := by
      intro r hr
      rcases List.mem_append.mp hr with hr | hr
      · exact hvisited r hr
      · obtain ⟨-, id, hentry, -⟩ := MemoryCluster.mem_listed.mp hr
        exact ⟨id, sound.mem_iff.mp hentry⟩
    rw [List.foldl_cons, List.flatMap_cons, ← List.append_assoc]
    exact ih (Gathering.Searched.foldl_visit sound _ ⟨h.walked, h.doomed, h.nodup⟩ hfound) hfound

/-- Listing the namespaces that a selector fits. -/
theorem list_namespaces {c : MemoryCluster} {kind : KindInfo} (selector : Option String)
    (hkind : KindInfo.find c.kinds ⟨"", "v1", "Namespace"⟩ = some kind)
    (hforbidden : (kind.gvk.kind, none) ∉ c.forbidden) :
    ∃ found, c.list kind none selector = .ok found ∧ found.map Resource.name = c.namespaces selector := by
  refine ⟨_, MemoryCluster.list_of_permitted hforbidden selector, ?_⟩
  simp only [MemoryCluster.namespaces, KindInfo.gvk_of_find hkind, Store.objects, Option.isNone_none,
    Bool.true_or, Bool.and_true, List.filter_map, List.map_map]
  rfl

/-- A search that is allowed lists the namespaces that it was asked for. -/
theorem outcome_scopesToList {options : CollectOptions} (h : memo.server.CanSearch options) :
    (scopesToList options memo.server.kinds).outcome session memo =
      (.ok (memo.server.searched options), memo) := by
  rw [scopesToList, MemoryCluster.searched]
  cases hmode : options.effectiveMode with
  | clusterScope => rfl
  | perNamespace =>
    obtain ⟨kind, hkind, hforbidden⟩ := h hmode
    obtain ⟨found, hlist, hnames⟩ := list_namespaces options.scopeSelector hkind hforbidden
    have hanswer : session.answer (.list kind none options.scopeSelector) memo = (.ok found, memo) :=
      Prod.ext hlist rfl
    have hdemand : ((demand (.list kind none options.scopeSelector)).inContext "listing namespaces").outcome
        session memo = (.ok found, memo) := by
      rw [outcome_inContext_eq_ok, outcome_demand, hanswer]
    simp only [hkind]
    rw [outcome_bind, hdemand, ← hnames, List.map_map]
    rfl

/-- Where the namespaces could be told, it can be told where to search. -/
theorem canSearch_of_scopesToList {options : CollectOptions} {scopes : List (Option String)}
    {memo' : Memo MemoryCluster}
    (h : (scopesToList options memo.server.kinds).outcome session memo = (.ok scopes, memo')) :
    memo.server.CanSearch options := by
  intro hmode
  rw [scopesToList, hmode] at h
  cases hkind : KindInfo.find memo.server.kinds ⟨"", "v1", "Namespace"⟩ with
  | none => simp [hkind] at h
  | some kind =>
    refine ⟨kind, rfl, fun hforbidden => ?_⟩
    have hlist : ∃ e, memo.server.list kind none options.scopeSelector = .error e :=
      ⟨_, MemoryCluster.list_of_forbidden hforbidden _⟩
    obtain ⟨e, hlist⟩ := hlist
    have hanswer : session.answer (.list kind none options.scopeSelector) memo = (.error e, memo) :=
      Prod.ext hlist rfl
    simp only [hkind] at h
    rw [outcome_bind, outcome_inContext, outcome_demand, hanswer] at h
    cases congrArg Prod.fst h

end Program

/-- What is listed is each kind that can be, in every namespace if it has them. -/
theorem Program.mem_listings {kinds : List KindInfo} {scopes : List (Option String)} {kind : KindInfo}
    {scope : Option String} :
    (kind, scope) ∈ Program.listings kinds scopes ↔
      kind ∈ kinds ∧ kind.supports "list" = true ∧
        scope ∈ (if kind.isNamespaced then scopes else [none]) := by
  simp only [Program.listings, List.mem_flatMap, List.mem_filter, List.mem_map, Prod.mk.injEq]
  constructor
  · rintro ⟨other, ⟨hother, hlist⟩, place, hplace, rfl, rfl⟩
    exact ⟨hother, hlist, hplace⟩
  · rintro ⟨hkind, hlist, hscope⟩
    exact ⟨kind, ⟨hkind, hlist⟩, scope, hscope, rfl, rfl⟩

/-- An object is reached by one of the listings that are made for its kind. -/
theorem MemoryCluster.isReached_iff {c : MemoryCluster} {options : CollectOptions} {kind : KindInfo}
    {id : Identity} :
    c.isReached options kind id = true ↔
      ∃ scope ∈ (if kind.isNamespaced then c.searched options else [none]),
        (kind.gvk.kind, scope) ∉ c.forbidden ∧ (scope = none ∨ id.scope = scope) := by
  rw [isReached, searched]
  cases kind.isNamespaced with
  | false => simp
  | true =>
    cases options.effectiveMode with
    | clusterScope => simp
    | perNamespace =>
      simp only [Bool.true_and, decide_true, if_true, List.any_eq_true, Bool.and_eq_true,
        decide_eq_true_eq, List.mem_map]
      constructor
      · rintro ⟨ns, hns, hscope, hpermitted⟩
        exact ⟨some ns, ⟨ns, hns, rfl⟩, hpermitted, .inr hscope⟩
      · rintro ⟨_, ⟨ns, hns, rfl⟩, hpermitted, hplace⟩
        exact ⟨ns, hns, hplace.resolve_left (by simp), hpermitted⟩

/-- What is reached in a cluster is reached when there is more in it. -/
theorem MemoryCluster.isReached_of_sublist {c c' : MemoryCluster} (hfewer : c'.objects.Sublist c.objects)
    (hforbidden : c'.forbidden = c.forbidden) {options : CollectOptions} {kind : KindInfo}
    {id : Identity} (h : c'.isReached options kind id = true) : c.isReached options kind id = true := by
  have hsearched : ∀ scope, scope ∈ c'.searched options → scope ∈ c.searched options := by
    intro scope hscope
    rw [searched] at hscope ⊢
    cases hmode : options.effectiveMode with
    | clusterScope => rwa [hmode] at hscope
    | perNamespace =>
      rw [hmode] at hscope
      exact ((((hfewer.filter _).filter _).map _).map _).subset hscope
  obtain ⟨scope, hscope, hpermitted, hplace⟩ := isReached_iff.mp h
  refine isReached_iff.mpr ⟨scope, ?_, hforbidden ▸ hpermitted, hplace⟩
  split at hscope
  next hlives => rw [if_pos hlives]; exact hsearched scope hscope
  next hlives => rwa [if_neg hlives]

namespace MemoryCluster.Sound

variable {c : MemoryCluster} (sound : c.Sound) {options : CollectOptions} {id : Identity} {r : Resource}

include sound

/-- An object is stored under one identity. -/
theorem id_unique {other : Identity} (h : c.objects.get? id = some r)
    (hother : c.objects.get? other = some r) : id = other := sound.distinct id other r r h hother rfl

/-- A listing finds a stored object when it is of the kind, and in the namespace if one is given. -/
theorem mem_listed_iff (h : c.objects.get? id = some r) {kind : KindInfo} {scope : Option String} :
    r ∈ c.listed (kind, scope) ↔
      (kind.gvk.kind, scope) ∉ c.forbidden ∧ id.gvk = kind.gvk ∧ (scope = none ∨ id.scope = scope) := by
  rw [mem_listed]
  refine and_congr_right fun _ => ⟨?_, fun hplace => ⟨id, sound.mem_iff.mpr h, hplace⟩⟩
  rintro ⟨other, hentry, hplace⟩
  obtain rfl := sound.id_unique h (sound.mem_iff.mp hentry)
  exact hplace

/-- The listings of a search reach exactly the objects that some permitted listing reaches. -/
theorem mem_flatMap_listed_iff (h : c.objects.get? id = some r) :
    r ∈ (Program.listings c.kinds (c.searched options)).flatMap c.listed ↔
      ∃ kind, KindInfo.find c.kinds id.gvk = some kind ∧ kind.supports "list" = true ∧
        c.isReached options kind id = true := by
  simp only [List.mem_flatMap, Prod.exists, Program.mem_listings, sound.mem_listed_iff h]
  constructor
  · rintro ⟨kind, scope, ⟨hkind, hlist, hscope⟩, hpermitted, hgvk, hplace⟩
    exact ⟨kind, hgvk ▸ sound.find_of_mem hkind, hlist,
      isReached_iff.mpr ⟨scope, hscope, hpermitted, hplace⟩⟩
  · rintro ⟨kind, hkind, hlist, hreached⟩
    have hgvk : id.gvk = kind.gvk := (KindInfo.gvk_of_find hkind).symm
    obtain ⟨scope, hscope, hpermitted, hplace⟩ := isReached_iff.mp hreached
    exact ⟨kind, scope, ⟨List.mem_of_find?_eq_some hkind, hlist, hscope⟩, hpermitted, hgvk, hplace⟩

/-- No object is stored twice. -/
theorem nodup_objects : (c.objects.map (·.2)).Nodup := by
  rw [List.Nodup, List.pairwise_map]
  refine sound.rising.imp_of_mem fun {a b} ha hb hlt heq => ?_
  have hid := sound.id_unique (sound.mem_iff.mp ha) (heq ▸ sound.mem_iff.mp hb)
  rw [hid] at hlt
  exact Identity.compare_self_ne_lt _ hlt

/-- What a finished search takes down is the garbage. -/
theorem mem_doomed_iff {seen : Seen} {ids : List Identity}
    (hcovers : seen.Covers c ids) {g : Gathering}
    (hg : g.Searched options.tag seen
      ((Program.listings c.kinds (c.searched options)).flatMap c.listed))
    (h : c.objects.get? id = some r) :
    r ∈ g.doomed ↔ c.isGarbage options ids (id, r) = true := by
  rw [hg.doomed, sound.mem_flatMap_listed_iff h, hcovers.contains_eq sound h, isGarbage]
  simp only [Option.any_eq_true, Bool.and_eq_true, decide_eq_true_eq, decide_eq_false_iff_not]
  constructor
  · rintro ⟨⟨kind, hkind, hlist, hreached⟩, heligible, hnew⟩
    exact ⟨kind, hkind, ⟨⟨hlist, hreached⟩, heligible⟩, hnew⟩
  · rintro ⟨kind, hkind, ⟨⟨hlist, hreached⟩, heligible⟩, hnew⟩
    exact ⟨⟨kind, hkind, hlist, hreached⟩, heligible, hnew⟩

end MemoryCluster.Sound

end Reconcile

import Mathlib.Data.List.Nodup
import Reconcile.Proofs.Command.Collect

/-!
# In which order garbage is found

A search across all namespaces finds the objects of one kind after the other, those of a kind in the
order in which they are stored. No two of them have the same uid, so what is taken down are the
eligible objects that were not seen, in just that order: `Program.doomed_gathered` says so, and
`MemoryCluster.fallen` gives that list by the state of the cluster alone.
-/

namespace Reconcile

/-- Whether an object under a served kind was seen is told by its identity. -/
def Seen.Marks (seen : Seen) (c : MemoryCluster) (ids : List Identity) : Prop :=
  ∀ id object kind, c.objects.get? id = some object →
    KindInfo.find c.kinds object.gvk = some kind → (seen.contains object = true ↔ id ∈ ids)

/-- What has become of the search for garbage after objects with different uids were looked at: the
eligible ones that were not seen are taken down in order. -/
structure Gathering.InOrder (tag : String) (seen : Seen) (visited : List Resource) (g : Gathering) :
    Prop where
  walked : ∀ uid ∈ g.walked, ∃ r ∈ visited, r.uid? = some uid
  doomed : g.doomed = visited.filter fun r => r.isEligible tag && !seen.contains r

namespace Gathering.InOrder

variable {tag : String} {seen : Seen} {visited : List Resource} {g : Gathering}

/-- Before anything was visited nothing is doomed. -/
theorem empty (tag : String) (seen : Seen) : Gathering.empty.InOrder tag seen [] :=
  ⟨by simp [Gathering.empty], rfl⟩

/-- Looking at an object with a uid of its own. -/
theorem visit (h : g.InOrder tag seen visited) {r : Resource} {uid : String} (huid : r.uid? = some uid)
    (hnew : r.uid? ∉ visited.map Resource.uid?) :
    (g.visit tag seen r).InOrder tag seen (visited ++ [r]) := by
  have hunwalked : uid ∉ g.walked := by
    intro hwalked
    obtain ⟨other, hother, hsame⟩ := h.walked uid hwalked
    exact hnew (List.mem_map.mpr ⟨other, hother, hsame.trans huid.symm⟩)
  rw [Gathering.visit_of_new huid hunwalked]
  constructor
  · intro other hother
    rcases List.mem_cons.mp hother with rfl | hother
    · exact ⟨r, by simp, huid⟩
    · obtain ⟨x, hx, hxuid⟩ := h.walked other hother
      exact ⟨x, List.mem_append_left _ hx, hxuid⟩
  · rw [List.filter_append, ← h.doomed, List.filter_singleton]
    cases r.isEligible tag && !seen.contains r <;> simp

/-- Looking at several objects with different uids. -/
theorem foldl_visit (h : g.InOrder tag seen visited) {found : List Resource}
    (hsaved : ∀ r ∈ found, ∃ uid, r.uid? = some uid)
    (hnodup : ((visited ++ found).map Resource.uid?).Nodup) :
    (found.foldl (Gathering.visit tag seen) g).InOrder tag seen (visited ++ found) := by
  induction found generalizing g visited with
  | nil => simpa using h
  | cons r rest ih =>
    have happend : visited ++ r :: rest = visited ++ [r] ++ rest := by simp
    obtain ⟨uid, huid⟩ := hsaved r List.mem_cons_self
    have hnew : r.uid? ∉ visited.map Resource.uid? := by
      rw [List.map_append, List.nodup_append] at hnodup
      exact fun hmem => hnodup.2.2 _ hmem _ (by simp) rfl
    rw [happend] at hnodup ⊢
    exact ih (h.visit huid hnew) (fun x hx => hsaved x (List.mem_cons_of_mem _ hx)) hnodup

end Gathering.InOrder

namespace Program

/-- A search through listings that find no uid twice takes down what it finds in order. -/
theorem inOrder_gathered {c : MemoryCluster} {tag : String} {seen : Seen} {visited : List Resource}
    {g : Gathering} (h : g.InOrder tag seen visited) {listings : List (KindInfo × Option String)}
    (hsaved : ∀ r ∈ listings.flatMap c.listed, ∃ uid, r.uid? = some uid)
    (hnodup : ((visited ++ listings.flatMap c.listed).map Resource.uid?).Nodup) :
    (listings.foldl (gatheredFrom c tag seen) g).InOrder tag seen
      (visited ++ listings.flatMap c.listed) := by
  induction listings generalizing g visited with
  | nil => simpa using h
  | cons listing rest ih =>
    rw [List.flatMap_cons] at hsaved
    rw [List.flatMap_cons, ← List.append_assoc] at hnodup ⊢
    have hfirst : ((visited ++ c.listed listing).map Resource.uid?).Nodup := by
      rw [List.map_append] at hnodup
      exact (List.nodup_append.mp hnodup).1
    have hgone : { g with
        forbiddenLists := g.forbiddenLists +
          if (listing.1.gvk.kind, listing.2) ∈ c.forbidden then 1 else 0 }.InOrder tag seen visited :=
      ⟨h.walked, h.doomed⟩
    refine ih ?_ (fun r hr => hsaved r (List.mem_append_right _ hr)) hnodup
    exact hgone.foldl_visit (fun r hr => hsaved r (List.mem_append_left _ hr)) hfirst

end Program

namespace MemoryCluster

/-- The listings of a search across all namespaces: one for each kind that can be listed. -/
theorem listings_all (kinds : List KindInfo) :
    Program.listings kinds [none] = (kinds.filter (·.supports "list")).map fun kind => (kind, none) := by
  simp only [Program.listings, ite_self, List.map_cons, List.map_nil]
  rw [List.map_eq_flatMap]

/-- The objects of one kind that a run with a tag collects when those under some identities were
applied, in the order in which they are stored. -/
def fallenOf (tag : String) (ids : List Identity) (c : MemoryCluster) (kind : KindInfo) : List Resource :=
  if c.forbidden.contains (kind.gvk.kind, none) then []
  else
    (c.objects.filter fun entry =>
      entry.1.gvk == kind.gvk && entry.2.isEligible tag && entry.1 ∉ ids).map (·.2)

/-- All objects that a run with a tag collects, one kind after the other. -/
def fallen (tag : String) (ids : List Identity) (c : MemoryCluster) : List Resource :=
  (c.kinds.filter (·.supports "list")).flatMap (c.fallenOf tag ids)

/-- What falls depends on the objects that were not applied alone. -/
theorem fallen_congr {c c' : MemoryCluster} {ids : List Identity} (hkinds : c'.kinds = c.kinds)
    (hforbidden : c'.forbidden = c.forbidden)
    (hrest : c'.objects.filter (fun entry => entry.1 ∉ ids) =
      c.objects.filter fun entry => entry.1 ∉ ids) (tag : String) :
    c'.fallen tag ids = c.fallen tag ids := by
  have hof (kind : KindInfo) : c'.fallenOf tag ids kind = c.fallenOf tag ids kind := by
    have hsplit (objects : Store) :
        (objects.filter fun entry =>
          entry.1.gvk == kind.gvk && entry.2.isEligible tag && decide (entry.1 ∉ ids)) =
        (objects.filter fun entry => decide (entry.1 ∉ ids)).filter fun entry =>
          entry.1.gvk == kind.gvk && entry.2.isEligible tag := List.filter_filter.symm
    rw [fallenOf, fallenOf, hforbidden, hsplit, hsplit, hrest]
  rw [fallen, fallen, hkinds]
  exact List.flatMap_congr fun kind _ => hof kind

namespace Sound

variable {c : MemoryCluster} (sound : c.Sound)

include sound

/-- No uid is stored twice. -/
theorem nodup_uids : (c.objects.map fun entry => entry.2.uid?).Nodup := by
  rw [List.Nodup, List.pairwise_map]
  refine sound.rising.imp_of_mem fun {a b} ha hb hlt heq => ?_
  have hid := sound.distinct _ _ _ _ (sound.mem_iff.mp ha) (sound.mem_iff.mp hb) heq
  rw [hid] at hlt
  exact Identity.compare_self_ne_lt _ hlt

/-- Whatever is listed has a uid. -/
theorem saved_of_listed {listing : KindInfo × Option String} {r : Resource} (h : r ∈ c.listed listing) :
    ∃ uid, r.uid? = some uid := by
  obtain ⟨-, id, hentry, -⟩ := mem_listed.mp h
  exact (sound.fits id r (sound.mem_iff.mp hentry)).saved

/-- The listings across all namespaces find no uid twice. -/
theorem nodup_listed : (((Program.listings c.kinds [none]).flatMap c.listed).map Resource.uid?).Nodup := by
  rw [List.map_flatMap, List.nodup_flatMap]
  constructor
  · rintro ⟨kind, scope⟩ -
    by_cases hforbidden : (kind.gvk.kind, scope) ∈ c.forbidden
    · simp [listed_of_forbidden hforbidden]
    · rw [listed_of_permitted hforbidden, Store.objects, List.map_map]
      exact sound.nodup_uids.sublist (List.filter_sublist.map _)
  · rw [listings_all, List.pairwise_map]
    have hkinds : c.kinds.Pairwise fun a b => a.gvk ≠ b.gvk := List.pairwise_map.mp sound.kinds
    refine (hkinds.filter _).imp fun {a b} hne => ?_
    intro uid ha hb
    obtain ⟨x, hx, rfl⟩ := List.mem_map.mp ha
    obtain ⟨y, hy, hsame⟩ := List.mem_map.mp hb
    obtain ⟨-, xid, hxentry, hxgvk, -⟩ := mem_listed.mp hx
    obtain ⟨-, yid, hyentry, hygvk, -⟩ := mem_listed.mp hy
    have hid := sound.distinct _ _ _ _ (sound.mem_iff.mp hyentry) (sound.mem_iff.mp hxentry) hsame
    exact hne (hxgvk.symm.trans (hid ▸ hygvk))

/-- Of what is listed of a kind, the eligible objects that were not seen are those that fall. -/
theorem filter_listed {seen : Seen} {ids : List Identity} (hmarks : seen.Marks c ids) {kind : KindInfo}
    (hkind : kind ∈ c.kinds) (tag : String) :
    (c.listed (kind, none)).filter (fun r => r.isEligible tag && !seen.contains r) =
      c.fallenOf tag ids kind := by
  by_cases hforbidden : (kind.gvk.kind, none) ∈ c.forbidden
  · rw [listed_of_forbidden hforbidden, fallenOf,
      if_pos (List.contains_iff_mem.mpr hforbidden), List.filter_nil]
  · rw [listed_of_permitted hforbidden, fallenOf, if_neg (hforbidden ∘ List.contains_iff_mem.mp), Store.objects]
    simp only [Option.isNone_none, Bool.true_or, Bool.and_true]
    rw [List.filter_map, List.filter_filter]
    congr 1
    refine List.filter_congr fun entry hentry => ?_
    have hobject := sound.mem_iff.mp hentry
    by_cases hgvk : entry.1.gvk = kind.gvk
    · have hserved : KindInfo.find c.kinds entry.2.gvk = some kind := by
        rw [(sound.fits _ _ hobject).gvk, hgvk]
        exact sound.find_of_mem hkind
      have hseen := hmarks _ _ kind hobject hserved
      have hcontains : seen.contains entry.2 = decide (entry.1 ∈ ids) := by
        rw [Bool.eq_iff_iff, hseen, decide_eq_true_eq]
      simp [hgvk, hcontains]
    · simp only [beq_false_of_ne hgvk, Bool.and_false, Bool.false_and]

/-- What falls is what the listings find, without what is not eligible or was seen. -/
theorem fallen_eq_filter {seen : Seen} {ids : List Identity} (hmarks : seen.Marks c ids) (tag : String) :
    c.fallen tag ids = ((Program.listings c.kinds [none]).flatMap c.listed).filter fun r =>
      r.isEligible tag && !seen.contains r := by
  rw [List.filter_flatMap, listings_all, List.flatMap_map, fallen]
  exact List.flatMap_congr fun kind hkind =>
    (sound.filter_listed hmarks (List.mem_filter.mp hkind).1 tag).symm

/-- What a search across all namespaces takes down, in order. -/
theorem doomed_gathered {seen : Seen} {ids : List Identity} (hmarks : seen.Marks c ids) (tag : String) :
    ((Program.listings c.kinds [none]).foldl (Program.gatheredFrom c tag seen) .empty).doomed =
      c.fallen tag ids := by
  have hsaved : ∀ r ∈ (Program.listings c.kinds [none]).flatMap c.listed, ∃ uid, r.uid? = some uid := by
    intro r hr
    obtain ⟨listing, -, hlisted⟩ := List.mem_flatMap.mp hr
    exact sound.saved_of_listed hlisted
  have horder := Program.inOrder_gathered (Gathering.InOrder.empty tag seen) hsaved
    (by simpa only [List.nil_append] using sound.nodup_listed)
  rw [horder.doomed, List.nil_append, sound.fallen_eq_filter hmarks]

/-- No two objects that fall have one uid. -/
theorem nodup_fallen {seen : Seen} {ids : List Identity} (hmarks : seen.Marks c ids) (tag : String) :
    ((c.fallen tag ids).map Resource.uid?).Nodup := by
  rw [sound.fallen_eq_filter hmarks]
  exact sound.nodup_listed.sublist (List.filter_sublist.map _)

/-- What falls is stored, under a kind that is served. -/
theorem stored_of_fallen {tag : String} {ids : List Identity} {r : Resource} (h : r ∈ c.fallen tag ids) :
    ∃ id kind, c.objects.get? id = some r ∧ KindInfo.find c.kinds r.gvk = some kind := by
  obtain ⟨kind, hkind, hr⟩ := List.mem_flatMap.mp h
  rw [fallenOf] at hr
  split at hr
  · simp at hr
  · obtain ⟨entry, hentry, rfl⟩ := List.mem_map.mp hr
    obtain ⟨hstored, htaken⟩ := List.mem_filter.mp hentry
    have hobject := sound.mem_iff.mp hstored
    have hgvk : entry.1.gvk = kind.gvk := by
      simp only [Bool.and_eq_true, beq_iff_eq] at htaken
      exact htaken.1.1
    refine ⟨entry.1, kind, hobject, ?_⟩
    rw [(sound.fits _ _ hobject).gvk, hgvk]
    exact sound.find_of_mem (List.mem_filter.mp hkind).1

end Sound

end MemoryCluster

end Reconcile

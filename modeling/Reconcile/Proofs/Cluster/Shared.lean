import Mathlib.Logic.Relation
import Reconcile.Proofs.Cluster.Answers

/-!
# Clusters that several clients change

Between any two requests of a run other clients may create, patch and delete objects. A shared
cluster remembers what it was, and the others are any function of all that: after every answer they
do some deeds, one after the other. `Shared.Later` is what both the answers to a run and the deeds of
orderly clients do to such a cluster, and `Honest.held_since` draws the one conclusion that a run
needs: an object that has the uid of an earlier one under its identity is still that object.
-/

namespace Reconcile

/-- What another client does to a cluster: it creates, patches or deletes an object, or tries to. -/
inductive MemoryCluster.Deed (c : MemoryCluster) : MemoryCluster → Prop
  | create (kind : KindInfo) (scope : Option String) {object : Resource}
    (wellFormed : object.toJson.WellFormed) : Deed c (c.create kind scope object).2
  | patch (kind : KindInfo) (scope : Option String) (name : String) {patch : Json}
    (wellFormed : patch.WellFormed) : Deed c (c.patch kind scope name patch).2
  | delete (kind : KindInfo) (scope : Option String) (name : String) (options : DeleteOptions) :
    Deed c (c.delete kind scope name options).2

namespace MemoryCluster.Deed

variable {c c' : MemoryCluster}

/-- A deed comes to what a request does. -/
theorem answered (h : c.Deed c') : ∃ r, c.Answered r c' := by
  cases h with
  | create kind scope _ => exact ⟨_, c.answered (.create kind scope _)⟩
  | patch kind scope name _ => exact ⟨_, c.answered (.patch kind scope name _)⟩
  | delete kind scope name options => exact ⟨_, c.answered (.delete kind scope name options)⟩

/-- A deed of another client changes neither the kinds nor what is forbidden. -/
theorem kinds_eq (h : c.Deed c') : c'.kinds = c.kinds ∧ c'.forbidden = c.forbidden := by
  obtain ⟨r, hr⟩ := h.answered
  exact hr.kinds_eq

/-- What stays under its identity keeps its uid. -/
theorem uid?_eq (h : c.Deed c') (keyed : c.Keyed) {id : Identity} {x y : Resource}
    (hx : c'.objects.get? id = some x) (hy : c.objects.get? id = some y) : y.uid? = x.uid? := by
  obtain ⟨r, hr⟩ := h.answered
  exact (hr.uid?_eq keyed hy hx).symm

end MemoryCluster.Deed

/-- A cluster that several clients change: as it is now, and as it was before, the latest first. -/
structure Shared where
  now : MemoryCluster
  past : List MemoryCluster

namespace Shared

/-- All that the cluster was, from now back to the first. -/
def history (s : Shared) : List MemoryCluster := s.now :: s.past

/-- The cluster turns into another. -/
def become (c : MemoryCluster) (s : Shared) : Shared := ⟨c, s.history⟩

/-- Answers requests from memory. After each answer the other clients act. -/
def server (others : Shared → Shared) : Server Shared where
  answer r s := ((MemoryCluster.server.answer r s.now).1,
    others (s.become (MemoryCluster.server.answer r s.now).2))

/-- A session over a cluster that other clients change as well. -/
abbrev session (others : Shared → Shared) : Server (Memo Shared) := (server others).remembering

/-- One deed of another client. -/
def Acts (s s' : Shared) : Prop := ∃ c, s.now.Deed c ∧ s' = s.become c

/-- One deed of a client that keeps to the rules: it leaves every object where the cluster looks for
it, and a new object gets a uid that no object has or had. -/
structure Orderly (s s' : Shared) : Prop where
  acts : s.Acts s'
  keyed : s'.now.Keyed
  fresh : ∀ id object, s'.now.objects.get? id = some object → s.now.objects.get? id = none →
    ∀ c ∈ s.history, ∀ other x, c.objects.get? other = some x → x.uid? ≠ object.uid?

/-- Whoever deletes keeps to the rules. -/
theorem orderly_delete {s : Shared} (keyed : s.now.Keyed) (kind : KindInfo) (scope : Option String)
    (name : String) (options : DeleteOptions) :
    s.Orderly (s.become (s.now.delete kind scope name options).2) := by
  refine ⟨⟨_, .delete kind scope name options, rfl⟩, ?_, fun id object hobject hmissing => ?_⟩
  · obtain ⟨e, -, h⟩ | ⟨current, -, -, h⟩ :=
      MemoryCluster.delete_cases (c := s.now) kind scope name options
    · rw [h]
      exact keyed
    · rw [h]
      exact keyed.erase _ _
  · obtain ⟨e, -, h⟩ | ⟨current, -, -, h⟩ :=
      MemoryCluster.delete_cases (c := s.now) kind scope name options
    · rw [h] at hobject
      exact absurd (hmissing.symm.trans hobject) (by simp)
    · rw [h] at hobject
      simp only [become, MemoryCluster.afterErase, Store.get?_erase, hmissing, ite_self] at hobject
      contradiction

/-- Whoever creates an object of a served kind keeps to the rules, if the uid that it gets is new. -/
theorem orderly_create {s : Shared} (keyed : s.now.Keyed) {kind : KindInfo} {object : Resource}
    (hkind : KindInfo.find s.now.kinds object.gvk = some kind) (hwf : object.toJson.WellFormed)
    (hunsaved : object.metadata.string? "uid" = none)
    (hfresh : ∀ c ∈ s.history, ∀ id x, c.objects.get? id = some x →
      x.uid? ≠ some s.now.nextUid) :
    s.Orderly (s.become (s.now.create kind object.scope? object).2) := by
  have hdeed : s.Acts (s.become (s.now.create kind object.scope? object).2) :=
    ⟨_, .create kind object.scope? hwf, rfl⟩
  obtain ⟨e, hsame⟩ | ⟨hlive, hleft, -⟩ :=
    MemoryCluster.create_cases (c := s.now) kind object.scope? object
  · rw [hsame] at hdeed ⊢
    exact ⟨hdeed, keyed, fun id x hx hmissing => absurd (hmissing.symm.trans hx) (by simp)⟩
  · rw [MemoryCluster.create_of_missing _ hleft hunsaved hlive] at hdeed ⊢
    refine ⟨hdeed, keyed.put (MemoryCluster.fits_createdFor hkind hwf), fun id x hx hmissing => ?_⟩
    simp only [become, MemoryCluster.afterCreate, Store.get?_insert, hmissing] at hx
    split at hx
    · rw [← Option.some.inj hx, MemoryCluster.createdFor,
        Resource.uid?_stampedWith _ _ _ s.now.nextUid_ne_empty]
      exact hfresh
    · contradiction

/-- What a client does that comes once: when the objects were the same all the time and so much has
happened, it deletes one of them and creates it anew. -/
def recreate (start : MemoryCluster) (kind : KindInfo) (object : Resource) (count : Nat) (s : Shared) :
    Shared :=
  if s.past.length = count ∧ s.now.kinds = start.kinds ∧ s.now.nextUid = start.nextUid ∧
      ∀ c ∈ s.history, c.objects = start.objects then
    let gone := s.become (s.now.delete kind object.scope? object.name ⟨none, .foreground, none⟩).2
    gone.become (gone.now.create kind object.scope? object).2
  else s

/-- A client that deletes an object and creates it again acts in order. -/
theorem orderly_recreate {start : MemoryCluster} (sound : start.Sound) {kind : KindInfo} {object : Resource}
    (hkind : KindInfo.find start.kinds object.gvk = some kind) (hwf : object.toJson.WellFormed)
    (hunsaved : object.metadata.string? "uid" = none) (count : Nat) (s : Shared) :
    Relation.ReflTransGen Orderly s (s.recreate start kind object count) := by
  rw [recreate]
  split
  next h =>
    obtain ⟨-, hkinds, hmade, hsame⟩ := h
    have hthen : s.now.objects = start.objects := hsame _ List.mem_cons_self
    have hgone := orderly_delete (sound.keyed.congr hkinds hthen) kind object.scope? object.name
      ⟨none, .foreground, none⟩
    obtain ⟨hnext, hfewer⟩ := MemoryCluster.keeps_of_delete (c := s.now) kind object.scope? object.name
      ⟨none, .foreground, none⟩
    refine .tail (.single hgone) (orderly_create hgone.keyed ?_ hwf hunsaved fun c hc id x hx => ?_)
    · obtain ⟨c, hdeed, heq⟩ := hgone.acts
      rwa [heq, become, hdeed.kinds_eq.1, hkinds]
    · have hold : start.objects.get? id = some x := by
        rcases List.mem_cons.mp hc with rfl | hc
        · exact hthen ▸ hfewer id x hx
        · exact hsame c hc ▸ hx
      simp only [become, hnext, hmade]
      exact sound.fresh _ (Nat.lt_succ_self _) id x hold
  next => exact .refl

end Shared

/-- From each cluster of a history to the next, what is under an identity keeps its uid or is new
there, with a uid that no object had before. -/
inductive Honest : List MemoryCluster → Prop
  | first (c : MemoryCluster) : Honest [c]
  | next {c c' : MemoryCluster} {earlier : List MemoryCluster} (before : Honest (c :: earlier))
    (uids : ∀ id object, c'.objects.get? id = some object →
      (∃ x, c.objects.get? id = some x ∧ x.uid? = object.uid?) ∨
        ∀ d ∈ c :: earlier, ∀ other x, d.objects.get? other = some x → x.uid? ≠ object.uid?) :
    Honest (c' :: c :: earlier)

/-- A uid that an object had and that is now found under an identity was there all the time since. -/
theorem Honest.held_since {recent earlier : List MemoryCluster} {last : MemoryCluster}
    (h : Honest (recent ++ last :: earlier)) {id other : Identity} {old now : Resource}
    (hold : last.objects.get? other = some old) (hsame : now.uid? = old.uid?)
    (hnow : ∀ c, (recent ++ [last]).head? = some c → c.objects.get? id = some now) :
    ∀ c ∈ recent, ∃ x, c.objects.get? id = some x ∧ x.uid? = old.uid? := by
  induction recent generalizing now with
  | nil => simp
  | cons c rest ih =>
    have hc : c.objects.get? id = some now := hnow c rfl
    obtain ⟨before, rest', hrest⟩ : ∃ before rest', rest ++ last :: earlier = before :: rest' := by
      cases rest <;> exact ⟨_, _, rfl⟩
    have hlast : last ∈ rest ++ last :: earlier := by simp
    rw [List.cons_append, hrest] at h
    rw [hrest] at hlast
    cases h with
    | next hbefore uids =>
      have hhead : (rest ++ [last]).head? = some before := by
        cases rest with
        | nil => exact congrArg some (List.cons.inj hrest).1
        | cons d rest => exact congrArg some (List.cons.inj hrest).1
      rcases uids id now hc with ⟨x, hx, hxuid⟩ | hnew
      · intro d hd
        rcases List.mem_cons.mp hd with rfl | hd
        · exact ⟨now, hc, hsame⟩
        · have hthen : ∀ e, (rest ++ [last]).head? = some e → e.objects.get? id = some x := by
            intro e he
            rw [hhead, Option.some.injEq] at he
            exact he ▸ hx
          exact ih (hrest ▸ hbefore) (hxuid.trans hsame) hthen d hd
      · exact absurd hsame.symm (hnew last hlast other old hold)

namespace Shared

/-- A state of a shared cluster after another one: nothing of the history is lost, kinds and
permissions are the same, and the cluster is still keyed and its history honest. -/
structure Later (s s' : Shared) : Prop where
  history : s.history <:+ s'.history
  kinds : s'.now.kinds = s.now.kinds
  forbidden : s'.now.forbidden = s.now.forbidden
  keyed : s.now.Keyed → s'.now.Keyed
  honest : s.now.Keyed → Honest s.history → Honest s'.history

namespace Later

variable {s s' s'' : Shared}

/-- A moment is not before itself. -/
theorem refl (s : Shared) : s.Later s := ⟨List.suffix_refl _, rfl, rfl, id, fun _ => id⟩

/-- What comes after something later comes later. -/
theorem trans (h : s.Later s') (h' : s'.Later s'') : s.Later s'' :=
  ⟨h.history.trans h'.history, h'.kinds.trans h.kinds, h'.forbidden.trans h.forbidden,
    fun keyed => h'.keyed (h.keyed keyed), fun keyed honest => h'.honest (h.keyed keyed) (h.honest keyed honest)⟩

/-- A deed of an orderly client. -/
theorem of_orderly (h : s.Orderly s') : s.Later s' := by
  obtain ⟨⟨c, deed, rfl⟩, keyed, fresh⟩ := h
  refine ⟨List.suffix_cons _ _, deed.kinds_eq.1, deed.kinds_eq.2, fun _ => keyed, fun before honest => ?_⟩
  refine .next honest fun id object hobject => ?_
  cases hbefore : s.now.objects.get? id with
  | some x => exact .inl ⟨x, rfl, deed.uid?_eq before hobject hbefore⟩
  | none => exact .inr (fresh id object hobject hbefore)

/-- Whoever acts in order comes to a later moment. -/
theorem of_reflTransGen (h : Relation.ReflTransGen Orderly s s') : s.Later s' := by
  induction h with
  | refl => exact refl s
  | tail _ one ih => exact ih.trans (of_orderly one)

/-- The cluster after less than it held, and before anything else happened. -/
theorem of_become {c : MemoryCluster} (hkinds : c.kinds = s.now.kinds)
    (hforbidden : c.forbidden = s.now.forbidden) (hkeyed : s.now.Keyed → c.Keyed)
    (hfewer : ∀ id object, c.objects.get? id = some object → s.now.objects.get? id = some object) :
    s.Later (s.become c) :=
  ⟨List.suffix_cons _ _, hkinds, hforbidden, hkeyed, fun _ honest =>
    .next honest fun id object hobject => .inl ⟨object, hfewer id object hobject, rfl⟩⟩

/-- An object that has the uid of an earlier one in its place is still that object, and was there all
the time. -/
theorem held_since (h : s.Later s') (honest : Honest s'.history) {id : Identity} {old now : Resource}
    (hold : s.now.objects.get? id = some old) (hnow : s'.now.objects.get? id = some now)
    (hsame : now.uid? = old.uid?) :
    ∃ recent, s'.history = recent ++ s.history ∧
      ∀ c ∈ recent, ∃ x, c.objects.get? id = some x ∧ x.uid? = old.uid? := by
  obtain ⟨recent, hrecent⟩ := h.history
  refine ⟨recent, hrecent.symm, ?_⟩
  rw [← hrecent] at honest
  refine Honest.held_since honest hold hsame fun c hc => ?_
  obtain rfl : c = s'.now := by
    cases recent with
    | nil => exact ((List.cons.inj hrecent).1 ▸ Option.some.inj hc).symm
    | cons d rest => exact ((List.cons.inj hrecent).1 ▸ Option.some.inj hc).symm
  exact hnow

end Later

end Shared

end Reconcile

import Reconcile.Cluster.Store

/-!
# Stores in rising order

The identities in a store rise strictly, so each occurs once: an entry is what is found under its
identity. Putting an object in keeps the order, and removing objects filters the list of entries.
-/

namespace Reconcile

namespace Identity

/-- Namespaces are compared as optional texts are. -/
theorem compareOption_eq_compare (a b : Option String) : compareOption a b = Ord.compare a b := by
  cases a <;> cases b <;> rfl

/-- Comparison of the namespaces, then of the names. -/
theorem compare_eq (a b : Identity) :
    a.compare b =
      (((Ord.compare a.gvk.group b.gvk.group).then
        ((Ord.compare a.gvk.version b.gvk.version).then (Ord.compare a.gvk.kind b.gvk.kind))).then
        ((Ord.compare a.scope b.scope).then (Ord.compare a.name b.name))) := by
  rw [compare, Gvk.compare, compareOption_eq_compare]

/-- The order of identities is the lexicographic order of their five parts. -/
theorem compare_eq_compareLex :
    compare = compareLex
      (compareLex (compareOn fun id : Identity => id.gvk.group)
        (compareLex (compareOn fun id : Identity => id.gvk.version)
          (compareOn fun id : Identity => id.gvk.kind)))
      (compareLex (compareOn fun id : Identity => id.scope)
        (compareOn fun id : Identity => id.name)) := by
  funext a b
  exact compare_eq a b

/-- The order of identities is transitive. -/
instance : Std.TransCmp compare := by
  rw [compare_eq_compareLex]
  infer_instance

/-- Only an identity itself compares as equal to it. -/
theorem eq_of_compare_eq {a b : Identity} (h : a.compare b = .eq) : a = b := by
  rw [compare_eq] at h
  simp only [Ordering.then_eq_eq, Std.LawfulEqCmp.compare_eq_iff_eq] at h
  obtain ⟨⟨hgroup, hversion, hkind⟩, hscope, hname⟩ := h
  obtain ⟨⟨group, version, kind⟩, scope, name⟩ := a
  obtain ⟨⟨group', version', kind'⟩, scope', name'⟩ := b
  simp only at hgroup hversion hkind hscope hname
  subst hgroup hversion hkind hscope hname
  rfl

/-- Of two identities one comes first. -/
theorem lt_of_not_lt {a b : Identity} (hne : a ≠ b) (h : a.compare b ≠ .lt) : b.compare a = .lt := by
  cases hcompare : a.compare b with
  | lt => exact absurd hcompare h
  | eq => exact absurd (eq_of_compare_eq hcompare) hne
  | gt => exact Std.OrientedCmp.lt_of_gt hcompare

/-- No identity comes before itself. -/
theorem compare_self_ne_lt (a : Identity) : a.compare a ≠ .lt := by
  have hself : a.compare a = .eq := Std.ReflCmp.compare_self
  simp [hself]

end Identity

namespace Store

/-- The identities rise strictly. -/
def Rising (s : Store) : Prop := s.Pairwise fun a b => a.1.compare b.1 = .lt

/-- A store is in order when its first entry comes before all others and these are in order. -/
theorem rising_cons {id : Identity} {object : Resource} {rest : Store} :
    Rising ((id, object) :: rest) ↔ (∀ entry ∈ rest, id.compare entry.1 = .lt) ∧ Rising rest :=
  List.pairwise_cons

/-- What is found in a store is one of its entries. -/
theorem mem_of_get? {id : Identity} {object : Resource} {s : Store} (h : s.get? id = some object) :
    (id, object) ∈ s := by
  induction s with
  | nil => simp at h
  | cons entry rest ih =>
    obtain ⟨k, r⟩ := entry
    rw [get?_cons] at h
    by_cases hk : k = id
    · rw [if_pos hk] at h
      obtain rfl : r = object := by simpa using h
      exact hk ▸ List.mem_cons_self
    · rw [if_neg hk] at h
      exact List.mem_cons_of_mem _ (ih h)

/-- In rising order every entry is what is found under its identity. -/
theorem get?_of_mem {id : Identity} {object : Resource} {s : Store} (rising : s.Rising)
    (h : (id, object) ∈ s) : s.get? id = some object := by
  induction s with
  | nil => simp at h
  | cons entry rest ih =>
    obtain ⟨k, r⟩ := entry
    obtain ⟨hlt, hrest⟩ := rising_cons.mp rising
    rw [get?_cons]
    rcases List.mem_cons.mp h with heq | hmem
    · obtain ⟨rfl, rfl⟩ := Prod.mk.inj heq
      exact if_pos rfl
    · have hne : k ≠ id := by
        rintro rfl
        have hself := hlt _ hmem
        exact Identity.compare_self_ne_lt k hself
      rw [if_neg hne, ih hrest hmem]

/-- In a store that is in order the entries are what is found under their identities. -/
theorem mem_iff_get? {s : Store} (rising : s.Rising) {id : Identity} {object : Resource} :
    (id, object) ∈ s ↔ s.get? id = some object := ⟨get?_of_mem rising, mem_of_get?⟩

/-- The entries after an insertion are the new one and old ones. -/
theorem mem_insert {id : Identity} {object : Resource} {entry : Identity × Resource} {s : Store}
    (h : entry ∈ s.insert id object) : entry = (id, object) ∨ entry ∈ s := by
  induction s with
  | nil => exact .inl (by simpa [insert] using h)
  | cons first rest ih =>
    obtain ⟨k, r⟩ := first
    rw [insert] at h
    split at h
    · exact (List.mem_cons.mp h).imp_right (List.mem_cons_of_mem _)
    · split at h
      · exact List.mem_cons.mp h
      · rcases List.mem_cons.mp h with rfl | h
        · exact .inr List.mem_cons_self
        · exact (ih h).imp_right (List.mem_cons_of_mem _)

/-- Putting an object in keeps the identities rising. -/
theorem Rising.insert {s : Store} (rising : s.Rising) (id : Identity) (object : Resource) :
    (s.insert id object).Rising := by
  induction s with
  | nil => simp [Rising, Store.insert]
  | cons entry rest ih =>
    obtain ⟨k, r⟩ := entry
    obtain ⟨hlt, hrest⟩ := rising_cons.mp rising
    rw [Store.insert]
    split
    next h => subst h; exact rising_cons.mpr ⟨hlt, hrest⟩
    next h =>
      split
      next hbefore =>
        rw [rising_cons]
        refine ⟨?_, rising⟩
        intro entry hentry
        rcases List.mem_cons.mp hentry with rfl | hentry
        · exact hbefore
        · exact Std.TransCmp.lt_trans hbefore (hlt entry hentry)
      next hbehind =>
        have hfirst : k.compare id = .lt := Identity.lt_of_not_lt (Ne.symm h) hbehind
        rw [rising_cons]
        refine ⟨?_, ih hrest⟩
        intro entry hentry
        rcases mem_insert hentry with rfl | hentry
        · exact hfirst
        · exact hlt entry hentry

/-- Removing an object keeps all entries but its own. -/
theorem erase_eq_filter (id : Identity) (s : Store) : s.erase id = s.filter fun entry => entry.1 ≠ id := by
  induction s with
  | nil => rfl
  | cons entry rest ih =>
    obtain ⟨k, r⟩ := entry
    rw [erase, List.filter_cons, ih]
    by_cases hk : k = id <;> simp [hk]

/-- Keeping some identities keeps what is found under them, and nothing else is found. -/
theorem get?_filter_key (keep : Identity → Bool) (id : Identity) (s : Store) :
    Store.get? id (s.filter fun entry => keep entry.1) = if keep id then s.get? id else none := by
  induction s with
  | nil => simp
  | cons entry rest ih =>
    obtain ⟨k, r⟩ := entry
    rw [List.filter_cons, get?_cons]
    by_cases hk : k = id
    · subst hk
      cases hkeep : keep k with
      | true => simp [get?_cons]
      | false => simp [ih, hkeep]
    · cases hkeep : keep k with
      | true => simp [get?_cons, hk, ih]
      | false => simp [hk, ih]

/-- Where nothing is found, there is no entry. -/
theorem ne_of_get?_eq_none {id : Identity} {s : Store} (h : s.get? id = none) :
    ∀ entry ∈ s, entry.1 ≠ id := by
  induction s with
  | nil => simp
  | cons first rest ih =>
    obtain ⟨k, r⟩ := first
    rw [get?_cons] at h
    split at h
    next => contradiction
    next hk =>
      intro entry hentry
      rcases List.mem_cons.mp hentry with rfl | hentry
      · exact hk
      · exact ih h entry hentry

/-- Whoever passes over an identity does not see what is put under it. -/
theorem filter_insert {id : Identity} {keep : Identity × Resource → Bool}
    (h : ∀ object, keep (id, object) = false) (object : Resource) (s : Store) :
    (s.insert id object).filter keep = s.filter keep := by
  induction s with
  | nil => simp [insert, h]
  | cons entry rest ih =>
    obtain ⟨k, r⟩ := entry
    rw [insert]
    split
    next hk => subst hk; simp [h]
    next =>
      split
      next => rw [List.filter_cons, h, if_neg Bool.false_ne_true]
      next => rw [List.filter_cons, List.filter_cons, ih]

/-- A store stays in order when entries are taken out. -/
theorem Rising.filter {s : Store} (rising : s.Rising) (keep : Identity × Resource → Bool) :
    Rising (s.filter keep) := List.Pairwise.filter keep rising

/-- What is kept is found as before, and nothing else. -/
theorem get?_filter {s : Store} (rising : s.Rising) (keep : Identity × Resource → Bool)
    {id : Identity} {object : Resource} :
    Store.get? id (s.filter keep) = some object ↔ s.get? id = some object ∧ keep (id, object) = true := by
  rw [← mem_iff_get? (rising.filter keep), List.mem_filter, mem_iff_get? rising]

end Store

end Reconcile

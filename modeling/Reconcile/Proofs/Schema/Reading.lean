import Reconcile.Proofs.Schema.Fits

/-!
# What is read from a schema

A schema is read keyword by keyword: each keyword asks for something once its value and what it looks up
among the others are read. So two schemas are read alike when either both cannot be used, or what their
keywords ask for agrees on some values: `alike_of_asks`.
-/

namespace Reconcile.Schema

section Alike

/-- Two results are alike when both are errors or both are values that are related. -/
inductive Alike {α β : Type} (R : α → β → Prop) : Except Problem α → Except Problem β → Prop
  | ok {a : α} {b : β} (h : R a b) : Alike R (.ok a) (.ok b)
  | error (e e' : Problem) : Alike R (.error e) (.error e')

namespace Alike

variable {α β α' β' : Type} {R : α → β → Prop} {S : α' → β' → Prop} {x : Except Problem α}
  {y : Except Problem β}

/-- What is read is alike to itself. -/
theorem refl {R : α → α → Prop} (h : ∀ a, R a a) (x : Except Problem α) : Alike R x x := by
  cases x with
  | ok a => exact .ok (h a)
  | error e => exact .error e e

/-- What follows on alike results is alike, if it is alike on those that can be read. -/
theorem bind_of_ok (h : Alike R x y) {f : α → Except Problem α'} {g : β → Except Problem β'}
    (hnext : ∀ a b, x = .ok a → R a b → Alike S (f a) (g b)) : Alike S (x >>= f) (y >>= g) := by
  cases h with
  | ok h => exact hnext _ _ rfl h
  | error e e' => exact .error e e'

/-- What follows on alike results alike is alike. -/
theorem bind (h : Alike R x y) {f : α → Except Problem α'} {g : β → Except Problem β'}
    (hnext : ∀ a b, R a b → Alike S (f a) (g b)) : Alike S (x >>= f) (y >>= g) :=
  h.bind_of_ok fun a b _ => hnext a b

/-- What is made of the value of either result. -/
theorem map (h : Alike R x y) {f : α → α'} {g : β → β'} (hmade : ∀ a b, R a b → S (f a) (g b)) :
    Alike S (do return f (← x)) (do return g (← y)) := h.bind fun a b hab => .ok (hmade a b hab)

/-- Results of two lists one by one. -/
theorem mapM {l : List α} {l' : List β} (h : List.Forall₂ R l l') {f : α → Except Problem α'}
    {g : β → Except Problem β'} (hone : ∀ a b, R a b → Alike S (f a) (g b)) :
    Alike (List.Forall₂ S) (l.mapM f) (l'.mapM g) := by
  induction h with
  | nil => exact .ok .nil
  | cons hab _ ih =>
    rw [List.mapM_cons, List.mapM_cons]
    exact (hone _ _ hab).bind fun _ _ hfirst => ih.map fun _ _ hrest => .cons hfirst hrest

end Alike

/-- What comes out of a list stands for its items in turn. -/
theorem forall₂_of_mapM {α β : Type} {f : α → Except Problem β} {l : List α} {l' : List β}
    (h : l.mapM f = .ok l') : List.Forall₂ (fun a b => f a = .ok b) l l' := by
  induction l generalizing l' with
  | nil =>
    obtain rfl : [] = l' := Except.ok.inj h
    exact .nil
  | cons a rest ih =>
    rw [List.mapM_cons] at h
    cases hfirst : f a with
    | error e => simp [hfirst, bind, Except.bind] at h
    | ok b =>
      cases hrest : rest.mapM f with
      | error e => simp [hfirst, hrest, bind, Except.bind] at h
      | ok later =>
        simp only [hfirst, hrest, bind, Except.bind, pure, Except.pure, Except.ok.injEq] at h
        exact h ▸ .cons hfirst (ih hrest)

end Alike

section Yields

/-- Schemas can be read, and something holds of them all. -/
def Yields (P : Schema → Prop) (x : Except Problem (List Schema)) : Prop := ∃ l, x = .ok l ∧ ∀ s ∈ l, P s

variable {P : Schema → Prop}

/-- What was read yields what holds of each schema. -/
@[simp] theorem yields_ok {l : List Schema} : Yields P (.ok l) ↔ ∀ s ∈ l, P s := by simp [Yields]

/-- What was not read yields nothing. -/
@[simp] theorem yields_error {e : Problem} : ¬Yields P (.error e) := by simp [Yields]

/-- What is made of two results together holds when it does for each. -/
theorem yields_pair {α β : Type} {x : Except Problem α} {y : Except Problem β} {f : α → Schema}
    {g : β → Schema} :
    Yields P (do let b ← y; let a ← x; return [f a, g b]) ↔
      Yields P (do return [f (← x)]) ∧ Yields P (do return [g (← y)]) := by
  cases x <;> cases y <;> simp [bind, Except.bind, pure, Except.pure]

/-- Of many results something holds when it holds of each. -/
theorem yields_flatten {α : Type} {parts : List α} {f : α → Except Problem (List Schema)} :
    Yields P (do return (← parts.mapM f).flatten) ↔ ∀ part ∈ parts, Yields P (f part) := by
  induction parts with
  | nil => simp [pure, Except.pure, bind, Except.bind]
  | cons part rest ih =>
    rw [List.mapM_cons, List.forall_mem_cons, ← ih]
    cases f part with
    | error e => simp [bind, Except.bind]
    | ok l => cases rest.mapM f <;> simp [bind, Except.bind, pure, Except.pure, or_imp, forall_and]

variable (follow : String → Check)

/-- What is asked of what was read: nothing, or that a value of some fits it. -/
inductive Asked (on : Json → Prop) : (Schema → Prop) → Prop
  | reading : Asked on fun _ => True
  | fitting {v : Json} (place : Path) (h : on v) : Asked on fun s => s.Fits follow place v

/-- Lists of schemas agree when they do as wholes. -/
def AgreeWhole (on : Json → Prop) (l l' : List Schema) : Prop := Agree follow on (.all l) (.all l')

variable {follow} {on : Json → Prop} {x y : Except Problem (List Schema)}

/-- Whatever is asked holds of a schema that everything fits. -/
theorem Asked.of_fits (h : Asked follow on P) {s : Schema} (hs : ∀ place v, s.Fits follow place v) : P s := by
  cases h with
  | reading => trivial
  | fitting place _ => exact hs place _

/-- Some schemas ask the same as themselves. -/
theorem AgreeWhole.refl (on : Json → Prop) (l : List Schema) : AgreeWhole follow on l l := Agree.refl on _

/-- Two schemas that agree do so each alone. -/
theorem Agree.single {s t : Schema} (h : Agree follow on s t) : AgreeWhole follow on [s] [t] :=
  fun place v hv => by
    rw [fits_all, fits_all, List.forall_mem_singleton, List.forall_mem_singleton, h place v hv]

/-- Results that are alike answer alike what is asked of them. -/
theorem Alike.yields_iff (h : Alike (AgreeWhole follow on) x y) (hasked : Asked follow on P) :
    Yields P x ↔ Yields P y := by
  cases h with
  | error e e' => simp
  | ok h =>
    rw [yields_ok, yields_ok]
    cases hasked with
    | reading => simp
    | fitting place hv => rw [← fits_all, ← fits_all, h place _ hv]

/-- Results that answer alike what is asked of them are alike. -/
theorem alike_of_yields (h : ∀ P, Asked follow on P → (Yields P x ↔ Yields P y)) :
    Alike (AgreeWhole follow on) x y := by
  have hreading := h _ .reading
  cases x with
  | error e =>
    cases y with
    | error e' => exact .error e e'
    | ok l => simp at hreading
  | ok l =>
    cases y with
    | error e' => simp at hreading
    | ok l' =>
      refine .ok fun place v hv => ?_
      rw [fits_all, fits_all, ← yields_ok, ← yields_ok, h _ (.fitting place hv)]

end Yields

section Parts

variable [PatternLanguage]

/-- What is read of the value of a keyword. -/
def readPart (place : Path) (keyword : String) (v : Json) : Part :=
  match reading keyword with
  | .plain => .plain
  | .schema => .single (read (place.under keyword) v)
  | .schemaOrList =>
    match v with
    | .array items => .listed (readList (place.under keyword) 0 items)
    | v => .single (read (place.under keyword) v)
  | .list =>
    match v with
    | .array items => .listed (readList (place.under keyword) 0 items)
    | _ => .plain
  | .map =>
    match v with
    | .object members => .mapped (readMap (place.under keyword) members)
    | _ => .plain
  | .dependencies =>
    match v with
    | .object members => .mapped (readDependencies (place.under keyword) members)
    | _ => .plain

/-- The keywords of a schema are read one by one. -/
theorem readParts_eq_map (place : Path) (node : Fields) :
    readParts place node = node.map fun m => (m.1, m.2, readPart place m.1 m.2) := by
  induction node with
  | nil => rw [readParts, List.map_nil]
  | cons m rest ih =>
    obtain ⟨keyword, v⟩ := m
    cases v <;> (simp only [readParts, ih, List.map_cons]; rfl)

/-- A keyword is looked up among the others by its value. -/
theorem find?_readParts (place : Path) (node : Fields) (keyword : String) :
    (readParts place node).find? (·.1 == keyword) =
      (node.get? keyword).map fun v => (keyword, v, readPart place keyword v) := by
  rw [readParts_eq_map]
  induction node with
  | nil => rfl
  | cons m rest ih =>
    obtain ⟨k, v⟩ := m
    rw [List.map_cons, List.find?_cons, Fields.get?_cons, ih]
    by_cases hk : k = keyword
    · simp [hk]
    · rw [beq_false_of_ne hk, if_neg hk]

/-- What a keyword of an object of keywords asks for. -/
def ask (place : Path) (node : Fields) (keyword : String) (v : Json) : Except Problem (List Schema) :=
  readKeyword place (readParts place node) (keyword, v, readPart place keyword v)

/-- What all keywords of an object ask for. -/
def askAll (place : Path) (node : Fields) : Except Problem (List Schema) := do
  return (← (readParts place node).mapM (readKeyword place (readParts place node))).flatten

/-- A schema that is no reference asks for all that its keywords ask for. -/
theorem read_object {node : Fields} (h : node.get? "$ref" = none) (place : Path) :
    read place (.object node) = do return .all (← askAll place node) := by
  rw [read, h, askAll, bind_assoc]
  rfl

/-- An object of keywords asks for what each of its keywords asks for. -/
theorem yields_askAll {node : Fields} (rising : node.Rising) {place : Path} {P : Schema → Prop} :
    Yields P (askAll place node) ↔
      ∀ keyword v, node.get? keyword = some v → Yields P (ask place node keyword v) := by
  rw [askAll, yields_flatten]
  have hparts : (∀ part ∈ readParts place node, Yields P (readKeyword place (readParts place node) part)) ↔
      ∀ m ∈ node, Yields P (ask place node m.1 m.2) := by
    constructor
    · exact fun h m hm => h _ (readParts_eq_map place node ▸ List.mem_map_of_mem hm)
    · intro h part hpart
      rw [readParts_eq_map] at hpart
      obtain ⟨m, hm, rfl⟩ := List.mem_map.mp hpart
      exact h m hm
  rw [hparts]
  exact ⟨fun h keyword v hv => h (keyword, v) (Fields.mem_of_get? hv),
    fun h m hm => h m.1 m.2 (Fields.get?_of_mem rising hm)⟩

/-- Two objects of keywords are read alike when what is asked of their keywords is answered alike. -/
theorem alike_of_asks {follow : String → Check} {on : Json → Prop} {node node' : Fields}
    (rising : node.Rising) (rising' : node'.Rising) (hplain : node.get? "$ref" = none)
    (hplain' : node'.get? "$ref" = none) {place : Path}
    (h : ∀ P, Asked follow on P →
      ((∀ keyword v, node.get? keyword = some v → Yields P (ask place node keyword v)) ↔
        ∀ keyword v, node'.get? keyword = some v → Yields P (ask place node' keyword v))) :
    Alike (Agree follow on) (read place (.object node)) (read place (.object node')) := by
  rw [read_object hplain, read_object hplain']
  have hasked : Alike (AgreeWhole follow on) (askAll place node) (askAll place node') :=
    alike_of_yields fun P hP => by rw [yields_askAll rising, yields_askAll rising', h P hP]
  exact hasked.map fun _ _ hagree => hagree

end Parts

end Reconcile.Schema

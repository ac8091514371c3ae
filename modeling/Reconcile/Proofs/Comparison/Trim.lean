import Reconcile.Proofs.Comparison.Covers

/-!
# What trimming leaves

Trimming keeps of a live value what the config mentions, and what is left is well formed and ordered as
the config is. A second trimming finds nothing more to drop, and a config that is the same as the live
value takes its place, with its own numbers: `Json.trim_projects` says both.
-/

namespace Reconcile

namespace Json

section Trim

variable {config live : Fields}

/-- Trimming keeps the order of the config's keys. -/
theorem keys_trimFields_sublist (config live : Fields) :
    (Fields.keys (trimFields config live)).Sublist config.keys := by
  induction config with
  | nil => exact .slnil
  | cons m rest ih =>
    obtain ⟨k, v⟩ := m
    rw [trimFields]
    split
    next => exact ih.cons_cons k
    next =>
      split
      next => exact ih.cons_cons k
      next => exact ih.cons k

/-- What is left of members stays in order. -/
theorem rising_trimFields (rising : config.Rising) (live : Fields) : Fields.Rising (trimFields config live) :=
  rising.of_keys (keys_trimFields_sublist config live)

/-- An item is trimmed, or it is further back than the config goes. -/
theorem mem_trimItems {config live : List Json} {v : Json} (h : v ∈ trimItems config live) :
    v ∈ live ∨ ∃ c ∈ config, ∃ l ∈ live, v = c.trim l := by
  induction config generalizing live with
  | nil => exact .inl (by simpa [trimItems] using h)
  | cons c rest ih =>
    cases live with
    | nil => simp [trimItems] at h
    | cons l others =>
      rw [trimItems] at h
      rcases List.mem_cons.mp h with rfl | h
      · exact .inr ⟨c, List.mem_cons_self, l, List.mem_cons_self, rfl⟩
      · rcases ih h with h | ⟨c', hc', l', hl', rfl⟩
        · exact .inl (List.mem_cons_of_mem _ h)
        · exact .inr ⟨c', List.mem_cons_of_mem _ hc', l', List.mem_cons_of_mem _ hl', rfl⟩

end Trim

/-- What a config mentions of a value is well formed. -/
theorem wellFormed_trim {config live : Json} (hc : config.WellFormed) (hl : live.WellFormed) :
    (config.trim live).WellFormed := by
  induction config generalizing live with
  | number n =>
    cases live with
    | number l => exact .number _
    | _ => exact hl
  | array config ih =>
    cases live with
    | array live =>
      cases hc with
      | array _ each =>
        cases hl with
        | array _ eachLive =>
          refine .array _ fun v hv => ?_
          rcases mem_trimItems hv with hv | ⟨c, hc, l, hl, rfl⟩
          · exact eachLive v hv
          · exact ih c hc (each c hc) (eachLive l hl)
    | _ => exact hl
  | object config ih =>
    rcases config with _ | ⟨m, rest⟩
    · cases live <;> exact hl
    cases live with
    | object live =>
      obtain ⟨rising, each⟩ := wellFormed_object_iff.mp hc
      obtain ⟨-, eachLive⟩ := wellFormed_object_iff.mp hl
      refine wellFormed_object_iff.mpr ⟨rising_trimFields rising live, fun key u hu => ?_⟩
      -- a member is that of the live object, trimmed, or an empty one of the config
      rw [get?_trimFields rising] at hu
      obtain ⟨v, hv, hu⟩ := Option.bind_eq_some_iff.mp hu
      split at hu
      next w hw =>
        exact Option.some.inj hu ▸ ih _ (Fields.mem_of_get? hv) (each key v hv) (eachLive key w hw)
      next =>
        split at hu
        next => exact Option.some.inj hu ▸ each key v hv
        next => simp at hu
    | _ => exact hl
  | _ => exact hl

section Same

/-- Lists of the same values are trimmed to the config. -/
theorem trimItems_of_sameItems {config live : List Json}
    (h : ∀ c ∈ config, ∀ l, c.sameValue l = true → c.trim l = c) (hsame : sameItems config live = true) :
    trimItems config live = config := by
  induction config generalizing live with
  | nil => cases live <;> simp [sameItems, trimItems] at hsame ⊢
  | cons c rest ih =>
    cases live with
    | nil => simp [sameItems] at hsame
    | cons l others =>
      rw [sameItems, Bool.and_eq_true] at hsame
      rw [trimItems, h c List.mem_cons_self l hsame.1,
        ih (fun v hv => h v (List.mem_cons_of_mem _ hv)) hsame.2]

/-- Members that are all found with the same value are trimmed to the config. -/
theorem trimFields_of_sameFields {config live : Fields}
    (h : ∀ m ∈ config, ∀ w, m.2.sameValue w = true → m.2.trim w = m.2)
    (hsame : sameFields config live = true) : trimFields config live = config := by
  induction config with
  | nil => rfl
  | cons m rest ih =>
    obtain ⟨⟨w, hw, hmw⟩, hrest⟩ := List.forall_mem_cons.mp (sameFields_iff.mp hsame)
    have htail := ih (fun x hx => h x (List.mem_cons_of_mem _ hx)) (sameFields_iff.mpr hrest)
    rw [trimFields, hw]
    dsimp only
    rw [h m List.mem_cons_self w hmw, htail]

/-- A config takes the place of a live value that is the same, however that one writes its numbers. -/
theorem trim_of_sameValue {config live : Json} (h : config.sameValue live = true) :
    config.trim live = config := by
  induction config generalizing live with
  | null => cases live <;> simp [sameValue, trim] at h ⊢
  | bool b => cases live <;> simp_all [sameValue, trim]
  | number n => cases live <;> simp_all [sameValue, trim]
  | string s => cases live <;> simp_all [sameValue, trim]
  | array config ih =>
    cases live with
    | array live => exact congrArg Json.array (trimItems_of_sameItems (fun c hc l => ih c hc) h)
    | _ => simp [sameValue] at h
  | object config ih =>
    cases live with
    | object live =>
      rw [sameValue, Bool.and_eq_true, beq_iff_eq] at h
      obtain ⟨hlength, hsame⟩ := h
      cases config with
      | nil => rw [trim, List.eq_nil_of_length_eq_zero hlength.symm]
      | cons m rest => exact congrArg Json.object (trimFields_of_sameFields (fun x hx w => ih x hx) hsame)
    | _ => simp [sameValue] at h

end Same

section Twice

/-- Items that are trimmed stay as they are when they are trimmed again. -/
theorem trimItems_trimItems {config : List Json}
    (h : ∀ c ∈ config, ∀ l, c.trim (c.trim l) = c.trim l) (live : List Json) :
    trimItems config (trimItems config live) = trimItems config live := by
  induction config generalizing live with
  | nil => simp only [trimItems]
  | cons c rest ih =>
    cases live with
    | nil => rfl
    | cons l others =>
      rw [trimItems, trimItems, h c List.mem_cons_self, ih fun v hv => h v (List.mem_cons_of_mem _ hv)]

/-- Members that are trimmed stay as they are when they are trimmed again: an empty value that the config
has put in is found again, and what was dropped stays dropped. -/
theorem trimFields_trimFields {config : Fields} (rising : config.Rising)
    (hself : ∀ m ∈ config, m.2.trim m.2 = m.2)
    (h : ∀ m ∈ config, ∀ w, m.2.trim (m.2.trim w) = m.2.trim w) (live : Fields) :
    trimFields config (trimFields config live) = trimFields config live := by
  refine (rising_trimFields rising _).ext (rising_trimFields rising live) fun key => ?_
  rw [get?_trimFields rising, get?_trimFields rising]
  cases hv : config.get? key with
  | none => rfl
  | some v =>
    have hmem := Fields.mem_of_get? hv
    rw [Option.bind_some, Option.bind_some]
    cases live.get? key with
    | some w => simp only [h _ hmem w]
    | none => cases v.isEmptyValue <;> simp [hself _ hmem]

/-- A second trimming changes nothing. -/
theorem trim_trim {config : Json} (hwf : config.WellFormed) (live : Json) :
    config.trim (config.trim live) = config.trim live := by
  induction config generalizing live with
  | number n =>
    cases live with
    | number l =>
      simp only [trim]
      split
      next => rw [ite_self]
      next => rfl
    | _ => rfl
  | array config ih =>
    cases live with
    | array live =>
      cases hwf with
      | array _ each =>
        exact congrArg Json.array (trimItems_trimItems (fun c hc l => ih c hc (each c hc) l) live)
    | _ => rfl
  | object config ih =>
    rcases config with _ | ⟨m, rest⟩
    · cases live <;> rfl
    cases live with
    | object live =>
      obtain ⟨rising, each⟩ := wellFormed_object_iff.mp hwf
      have hmember (x : String × Json) (hx : x ∈ m :: rest) : x.2.WellFormed :=
        each x.1 x.2 (Fields.get?_of_mem rising hx)
      refine congrArg Json.object (trimFields_trimFields rising (fun x hx => ?_) (fun x hx w => ?_) live)
      · exact trim_of_sameValue (sameValue_self (hmember x hx))
      · exact ih x hx (hmember x hx) w
    | _ => rfl
  | _ => cases live <;> rfl

end Twice

/-- Trimming is a projection, and it gives the config back where the live value is the same. -/
theorem trim_projects :
    (∀ config live : Json, config.WellFormed → config.trim (config.trim live) = config.trim live) ∧
      ∀ config live : Json, config.sameValue live = true → config.trim live = config :=
  ⟨fun _ live hwf => trim_trim hwf live, fun _ _ h => trim_of_sameValue h⟩

/-- A container whose arguments are left open, beside a live one with more in it, and beside one that says the
same with a port of `8080.0`. -/
theorem trim_projects_of_container :
    let port : Number := .integer ⟨8080, by decide⟩
    let portFloat : Number := .float ⟨false, 0x1f900000000000, -40, by decide⟩
    let container (args : Fields) (ports : List Json) (more : Fields) : Json :=
      .object (("args", .object args) :: ("ports", .array ports) :: ("stdin", .bool false) :: more)
    let config := container [] [.object [("port", .number port)]] []
    let echoed := container [] [.object [("port", .number portFloat)]] []
    let live : Json :=
      .object [("args", .object [("verbose", .bool true)]),
        ("ports", .array [.object [("name", .string "http"), ("port", .number portFloat)], .null]),
        ("uid", .string "u")]
    let left := container [("verbose", .bool true)] [.object [("port", .number port)], .null] []
    config.WellFormed ∧ config.trim live = left ∧ config.trim left = left ∧
      config.sameValue echoed = true ∧ config ≠ echoed ∧ config.trim echoed = config := by
  intro port portFloat container config echoed live left
  have hwf : config.WellFormed := by decide
  have hleft : config.trim live = left := by decide
  have hsame : config.sameValue echoed = true := by decide
  have htwice := trim_projects.1 config live hwf
  rw [hleft] at htwice
  exact ⟨hwf, hleft, htwice, hsame, by decide, trim_projects.2 config echoed hsame⟩

end Json

end Reconcile

import Reconcile.Proofs.Program.Run

/-!
# Sessions that know the kinds

Once a session was told the kinds, it answers with them from memory, through every later request.
What a command asks about kinds leaves such a session as it is, and the result depends on the
kinds alone.
-/

namespace Reconcile

namespace Server

variable {σ : Type} (server : Server σ)

/-- A session that knows the kinds answers with them and stays as it is. -/
theorem remembering_kinds {kinds : List KindInfo} {memo : Memo σ} (h : memo.kinds = some kinds) :
    server.remembering.answer .kinds memo = (.ok kinds, memo) := by
  simp only [remembering, h]

/-- A session that knows the kinds keeps knowing them. -/
theorem remembering_keeps_kinds {kinds : List KindInfo} (r : Request) (memo : Memo σ)
    (h : memo.kinds = some kinds) : (server.remembering.answer r memo).2.kinds = some kinds := by
  cases r with
  | version =>
    simp only [remembering]
    split
    · exact h
    · split <;> exact h
  | kinds => rw [remembering_kinds server h, h]
  | _ => exact h

/-- A request is answered from memory, or by the server. -/
theorem remembering_server (r : Request) (memo : Memo σ) :
    (server.remembering.answer r memo).2.server = memo.server ∨
      (server.remembering.answer r memo).2.server = (server.answer r memo.server).2 := by
  cases r with
  | version =>
    simp only [remembering]
    split
    · exact .inl rfl
    · split
      next h => exact .inr (congrArg Prod.snd h).symm
      next h => exact .inr (congrArg Prod.snd h).symm
  | kinds =>
    simp only [remembering]
    split
    · exact .inl rfl
    · split
      next h => exact .inr (congrArg Prod.snd h).symm
      next h => exact .inr (congrArg Prod.snd h).symm
  | _ => exact .inr rfl

/-- A session that was told the kinds knows them. -/
theorem remembering_learns_kinds {kinds : List KindInfo} {memo : Memo σ}
    (h : (server.remembering.answer .kinds memo).1 = .ok kinds) :
    (server.remembering.answer .kinds memo).2.kinds = some kinds := by
  cases hkinds : memo.kinds with
  | some known =>
    rw [remembering_kinds server hkinds] at h ⊢
    rw [hkinds, ← Except.ok.inj h]
  | none =>
    simp only [remembering, hkinds] at h ⊢
    rcases hanswer : server.answer .kinds memo.server with ⟨e | known, s⟩
    · simp [hanswer] at h
    · simp only [hanswer, Except.ok.injEq] at h ⊢
      exact congrArg some h

end Server

namespace Program

section Outcome

variable {σ : Type} (server : Server σ) {kinds : List KindInfo} {memo : Memo σ}

/-- A session that knows the kinds need not ask for them. -/
theorem outcome_demand_kinds (h : memo.kinds = some kinds) :
    (demand .kinds).outcome server.remembering memo = (.ok kinds, memo) := by
  rw [outcome_demand, Server.remembering_kinds server h]

/-- It looks kinds up among those it knows. -/
theorem outcome_kindInfo (h : memo.kinds = some kinds) (gvk : Gvk) :
    (kindInfo gvk).outcome server.remembering memo = (.ok (KindInfo.find kinds gvk), memo) := by
  rw [kindInfo, outcome_bind, outcome_demand_kinds server h]
  rfl

/-- A kind that it knows is resolved to what it knows of it. -/
theorem outcome_resolve (h : memo.kinds = some kinds) {gvk : Gvk} {kind : KindInfo}
    (hkind : KindInfo.find kinds gvk = some kind) :
    (resolve gvk).outcome server.remembering memo = (.ok kind, memo) := by
  rw [resolve, outcome_bind, outcome_kindInfo server h, hkind]
  rfl

/-- It describes an object by the kind that it knows. -/
theorem outcome_describe (h : memo.kinds = some kinds) (r : Resource) :
    (describe r).outcome server.remembering memo =
      (.ok (r.description (KindInfo.find kinds r.gvk)), memo) := by
  rw [describe, outcome_bind, outcome_request, Server.remembering_kinds server h]
  rfl

/-- A kind that it does not know is passed over or refused, as was asked for. -/
theorem outcome_kindOf (h : memo.kinds = some kinds) (ignoreUnknown : Bool) (r : Resource) :
    (kindOf ignoreUnknown r).outcome server.remembering memo =
      (match KindInfo.find kinds r.gvk with
        | some kind => .ok (some kind)
        | none =>
          if ignoreUnknown then .ok none
          else .error ((Failure.ofCause (.unknownKind r.gvk)).inContext r.identity.text), memo) := by
  rw [kindOf, outcome_bind, outcome_kindInfo server h]
  cases KindInfo.find kinds r.gvk with
  | some kind => rfl
  | none => cases ignoreUnknown <;> rfl

end Outcome

section Asks

variable {allowed : Request → Prop}

/-- Looking up a kind asks for the kinds alone. -/
theorem asks_kindInfo (h : allowed .kinds) (gvk : Gvk) : (kindInfo gvk).Asks allowed :=
  asks_bind (asks_demand h) fun _ => asks_pure _

/-- So does resolving one. -/
theorem asks_resolve (h : allowed .kinds) (gvk : Gvk) : (resolve gvk).Asks allowed := by
  refine asks_bind (asks_kindInfo h gvk) fun kind => ?_
  cases kind <;> trivial

/-- So does describing an object. -/
theorem asks_describe (h : allowed .kinds) (r : Resource) : (describe r).Asks allowed := by
  refine asks_bind (asks_request h) fun answer => ?_
  cases answer <;> exact asks_pure _

/-- So does finding out the kind of an input. -/
theorem asks_kindOf (h : allowed .kinds) (ignoreUnknown : Bool) (r : Resource) :
    (kindOf ignoreUnknown r).Asks allowed := by
  refine asks_bind (asks_kindInfo h r.gvk) fun kind => ?_
  cases kind with
  | some kind => exact asks_pure _
  | none => cases ignoreUnknown <;> trivial

end Asks

end Program

end Reconcile

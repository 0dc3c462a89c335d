import TopicTables.Proofs.Session.Invariant

/-! # Using a handle in parts

A handle is used in up to three parts: a look at it, an opening where it was absent, and one more
look behind the opening. Between two parts other threads may act on the session. Done one after the
other without interruption, the parts are the use as a whole.
-/

namespace TopicTables

namespace Action

variable {α β : Type}

theorem ext {first second : Action α}
    (same : ∀ session, first.run session = second.run session) : first = second :=
  funext same

theorem id_map_eq (action : Action α) : id <$> action = action := by
  apply Action.ext
  intro session
  change (action >>= fun value => pure value).run session = action.run session
  rw [run_bind]
  obtain ⟨result, after, trace⟩ := action.run session
  cases result <;> simp

theorem pure_bind_eq (value : α) (next : α → Action β) : pure value >>= next = next value := by
  apply Action.ext
  intro session
  simp [run_bind]

theorem bind_assoc_eq {γ : Type} (action : Action α) (next : α → Action β) (last : β → Action γ) :
    action >>= next >>= last = action >>= fun value => next value >>= last := by
  apply Action.ext
  intro session
  cases first : (action.run session).result with
  | error failure => simp [run_bind, first]
  | ok value =>
    cases second : ((next value).run (action.run session).session).result <;>
      simp [run_bind, first, second]

instance : LawfulMonad Action :=
  LawfulMonad.mk' Action id_map_eq pure_bind_eq bind_assoc_eq

@[simp] theorem run_map (f : α → β) (action : Action α) (session : Session) :
    (f <$> action).run session =
      ⟨(action.run session).result.map f, (action.run session).session,
        (action.run session).trace⟩ := by
  rw [← bind_pure_comp, run_bind]
  cases (action.run session).result <;> simp [Except.map]

end Action

namespace Session
open TopicTables.Action

variable {Listing : Type}

inductive Handle where
  | broker
  | registry
deriving DecidableEq, Repr

def held (session : Session) : Handle → Option Nat
  | .broker => session.broker
  | .registry => session.registry

/-- How a use fails whose handle is absent behind an opening that ended well. -/
def Handle.notOpen : Handle → Failure
  | .broker => .brokerNotOpen
  | .registry => .registryNotOpen

def use (services : Services Listing) : Handle → Action Nat
  | .broker => useBroker services
  | .registry => useRegistry services

theorem use_eq (services : Services Listing) (handle : Handle) :
    use services handle = (do
      let seen ← Action.read (·.held handle)
      openIfAbsent services seen
      let later ← Action.read (·.held handle)
      Action.ofExcept (settle handle.notOpen seen later)) := by
  cases handle <;> rfl

theorem keeps_use {P : Session → Prop} {services : Services Listing}
    (opening : Keeps P (openMissing services)) (handle : Handle) :
    Keeps P (use services handle) := by
  cases handle with
  | broker => exact keeps_useBroker opening
  | registry => exact keeps_useRegistry opening

/-- What comes next in the use of a handle. -/
inductive Use where
  | looks
  | opens
  | looksAgain
deriving DecidableEq, Repr

namespace Use

/-- Do the next part of a use. It leads to another part or to the handle. -/
def act (services : Services Listing) (handle : Handle) : Use → Action (Use ⊕ Nat)
  | looks => do
    match ← Action.read (·.held handle) with
    | some number => return .inr number
    | none => return .inl opens
  | opens => do
    openMissing services
    return .inl looksAgain
  | looksAgain => do
    let later ← Action.read (·.held handle)
    return .inr (← Action.ofExcept (settle handle.notOpen none later))

section
variable {services : Services Listing} {handle : Handle} {session : Session} {number : Nat}

theorem run_looks_of_held (held : session.held handle = some number) :
    (looks.act services handle).run session = ⟨.ok (.inr number), session, []⟩ := by
  simp [act, run_bind, held]

theorem run_looks_of_absent (absent : session.held handle = none) :
    (looks.act services handle).run session = ⟨.ok (.inl opens), session, []⟩ := by
  simp [act, run_bind, absent]

theorem run_opens : (opens.act services handle).run session =
    ⟨((openMissing services).run session).result.map fun _ => .inl looksAgain,
      ((openMissing services).run session).session,
      ((openMissing services).run session).trace⟩ := by
  simp [act]

theorem run_looksAgain_of_held (held : session.held handle = some number) :
    (looksAgain.act services handle).run session = ⟨.ok (.inr number), session, []⟩ := by
  simp [act, run_bind, held, settle, Except.map]

theorem run_looksAgain_of_absent (absent : session.held handle = none) :
    (looksAgain.act services handle).run session = ⟨.error handle.notOpen, session, []⟩ := by
  simp [act, run_bind, absent, settle, Except.map]

def rank : Use → Nat
  | looks => 3
  | opens => 2
  | looksAgain => 1

theorem rank_lt {use next : Use}
    (leads : ((use.act services handle).run session).result = .ok (.inl next)) :
    next.rank < use.rank := by
  cases use with
  | looks =>
    cases held : session.held handle with
    | some number =>
      rw [run_looks_of_held held] at leads
      cases leads
    | none =>
      rw [run_looks_of_absent held] at leads
      cases leads
      decide
  | opens =>
    rw [run_opens] at leads
    obtain ⟨-, -, same⟩ := Results.map_eq_ok_iff.mp leads
    cases same
    decide
  | looksAgain =>
    cases held : session.held handle with
    | some number =>
      rw [run_looksAgain_of_held held] at leads
      cases leads
    | none =>
      rw [run_looksAgain_of_absent held] at leads
      cases leads

end

/-- What is left of a use, done without interruption. -/
def rest (services : Services Listing) (handle : Handle) : Use → Action Nat
  | looks => use services handle
  | opens => do
    openMissing services
    let later ← Action.read (·.held handle)
    Action.ofExcept (settle handle.notOpen none later)
  | looksAgain => do
    let later ← Action.read (·.held handle)
    Action.ofExcept (settle handle.notOpen none later)

/-- Done one after the other, the parts are the use as a whole. -/
theorem rest_eq (services : Services Listing) (handle : Handle) (part : Use) :
    part.rest services handle =
      part.act services handle >>= Sum.elim (Use.rest services handle) pure := by
  cases part with
  | looks =>
    rw [rest, act, use_eq, bind_assoc]
    refine bind_congr fun seen => ?_
    cases seen with
    | none => simp [rest, openIfAbsent]
    | some number =>
      apply Action.ext
      intro session
      simp [run_bind, openIfAbsent, settle]
  | opens => simp [rest, act]
  | looksAgain => simp [rest, act]

end Use

end Session

end TopicTables

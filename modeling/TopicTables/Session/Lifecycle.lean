import TopicTables.Session.Basic

/-! # Opening, using and closing sessions

Opening makes whichever handle is missing, the broker first: a failed broker leaves the registry
untouched, a failed registry leaves the broker. Closing drops both handles whether or not the broker
shuts down well. Using a handle opens the session on first use; between its steps other threads may
act, so the handle is looked at once more after opening.
-/

namespace TopicTables.Session

variable {Listing : Type}

/-- Make and connect a broker session, unless there is one. -/
def openBroker (services : Services Listing) : Action Unit := do
  if (← Action.read (·.broker)).isSome then return ()
  let servers ← Action.read (·.servers)
  Action.ofReply .service (services.makeBroker servers)
  let number := (← Action.read (·.brokersMade)) + 1
  Action.change ({ · with brokersMade := number })
  match ← Action.attempt (services.startBroker number servers) with
  | .error cause =>
    Action.log .error ("Failed to start broker admin for " ++ servers ++ ": " ++ cause.message)
    Action.fail (.brokerFailed servers cause)
  | .ok () =>
    Action.change ({ · with broker := some number })
    Action.log .info ("Opened broker admin session for " ++ servers)

/-- Make a registry, unless there is one. None may be handed out; that is no failure. -/
def openRegistry (services : Services Listing) : Action Unit := do
  if (← Action.read (·.registry)).isSome then return ()
  let url ← Action.read (·.url)
  match ← Action.attempt (services.makeRegistry url) with
  | .error cause =>
    Action.log .error ("Failed to create schema registry client for " ++ url ++ ": " ++
      cause.message)
    Action.fail (.registryFailed url cause)
  | .ok true =>
    Action.change fun session =>
      { session with registry := some (session.registriesMade + 1)
                     registriesMade := session.registriesMade + 1 }
    Action.log .info ("Opened schema registry client for " ++ url)
  | .ok false => Action.log .info ("Opened schema registry client for " ++ url)

/-- Make whichever handle is missing. No other thread acts on the session meanwhile. -/
def openMissing (services : Services Listing) : Action Unit := do
  openBroker services
  openRegistry services

/-- Drop both handles and shut the broker session down. No other thread acts on the session
meanwhile. -/
def close (services : Services Listing) : Action Unit := do
  let broker ← Action.read (·.broker)
  Action.change ({ · with broker := none, registry := none })
  match broker with
  | none => return ()
  | some number =>
    let servers ← Action.read (·.servers)
    Action.ofReply .service (services.shutdownBroker number servers)
    Action.log .info ("Closed broker admin session for " ++ servers)

/-- Open the session if a handle was not there when it was looked at first. -/
def openIfAbsent (services : Services Listing) (seen : Option Nat) : Action Unit :=
  match seen with
  | some _ => pure ()
  | none => openMissing services

/-- The handle to use: the one seen first, or else the one seen after opening. -/
def settle (failure : Failure) (seen later : Option Nat) : Except Failure Nat :=
  match seen, later with
  | some handle, _ => .ok handle
  | none, some handle => .ok handle
  | none, none => .error failure

/-- The broker handle, opening the session on first use. -/
def useBroker (services : Services Listing) : Action Nat := do
  let seen ← Action.read (·.broker)
  openIfAbsent services seen
  let later ← Action.read (·.broker)
  Action.ofExcept (settle .brokerNotOpen seen later)

/-- The registry handle, opening the session on first use. -/
def useRegistry (services : Services Listing) : Action Nat := do
  let seen ← Action.read (·.registry)
  openIfAbsent services seen
  let later ← Action.read (·.registry)
  Action.ofExcept (settle .registryNotOpen seen later)

end TopicTables.Session

import Scout.Command.Session

/-! What a command may do with what it holds, and in which order. -/

namespace Scout.Command

open Machine Dialogue Wifi

/-- Whether something is registered with the master. -/
def Holding.registered : Holding → Bool
  | .publisher _ => true
  | .subscriber _ => true
  | _ => false

/-- What is held, the latest first, and how things stand with the motor controller. -/
structure Custody where
  held : List Holding
  /-- A node has connected to the publisher that is held. -/
  heard : Bool
  /-- The last command that was handed over is no stop. -/
  moving : Bool
  deriving DecidableEq

namespace Custody

/-- Nothing is held, and the robot has not been told to move. -/
def idle : Custody := ⟨[], false, false⟩

/-- Take something that is not held yet; what is registered needs a session. -/
def keep (custody : Custody) (holding : Holding) : Option Custody :=
  if holding ∈ custody.held then none
  else if holding.registered ∧ .session ∉ custody.held then none
  else some { custody with held := holding :: custody.held }

/-- Hold something no longer. -/
def without (custody : Custody) (holding : Holding) : Custody :=
  { custody with held := custody.held.erase holding }

/-- Give something back that is held. -/
def release (custody : Custody) (holding : Holding) : Option Custody :=
  if holding ∉ custody.held then none
  else
    match holding with
    -- ROS is shut down after everything has been unregistered.
    | .session =>
      if custody.held.any Holding.registered then none else some (custody.without holding)
    -- The robot is stopped before its publisher is gone.
    | .publisher _ =>
      if custody.moving then none else some { custody.without holding with heard := false }
    -- The terminal's keyboard is put back before its mode.
    | .rawMode =>
      if .keyboardFlags ∈ custody.held then none else some (custody.without holding)
    | _ => some (custody.without holding)

/-- What is allowed, and what it leads to. -/
def rule (custody : Custody) : CommandEvent → Option Custody
  | .initialised _ _ (.ok ()) => custody.keep .session
  | .taken holding (.ok ()) => custody.keep holding
  | .bound purpose address result =>
    -- Nothing but this computer itself may reach the bridge.
    if address.ip.isLoopback then
      match result with
      | .ok () => custody.keep (.listener purpose)
      | .error _ => some custody
    else none
  | .given holding => custody.release holding
  | .spawned name purpose result =>
    -- A listener that its thread does not get is dropped with the thread's function.
    (custody.release (.listener purpose)).bind fun custody =>
      match result with
      | .ok () => custody.keep (.thread name)
      | .error _ => some custody
  | .counted topic subscribers =>
    if .publisher topic ∈ custody.held then
      some { custody with heard := custody.heard || decide (0 < subscribers) }
    else none
  | .looped _ (some twist) =>
    -- A command needs a publisher that somebody has connected to.
    if .publisher cmdVel ∈ custody.held ∧ custody.heard then
      some { custody with moving := decide (twist ≠ ScoutTwist.zero) }
    else none
  | _ => some custody

end Custody

/-- An event that is allowed everywhere and leads nowhere. -/
def CommandEvent.Still (event : CommandEvent) : Prop :=
  ∀ custody : Custody, custody.rule event = some custody

/-- From one state of custody, a program does what is allowed, and leads on. -/
def Leads {ε α : Type} (custody : Custody) (program : CommandM ε α)
    (Returned : α → Custody → Prop) (Failed : ε → Custody → Prop) : Prop :=
  Follows Custody.rule (· = custody) program Returned Failed

section Leading

variable {ε α : Type} {custody after : Custody} {program : CommandM ε α}

/-- What leads nowhere leaves everything as it is. -/
theorem leads_still (emits : Emits CommandEvent.Still program) :
    Leads custody program (fun _ => (· = custody)) fun _ => (· = custody) :=
  emits.tracks fun place _ still => along_one (still place)

/-- A sequence leads on from where its first part has led. -/
theorem leads_bind {β : Type} {first : CommandM ε β} {next : β → CommandM ε α}
    {place : β → Custody} {Returned : α → Custody → Prop} {Failed : ε → Custody → Prop}
    (firstLeads : Leads custody first (fun value => (· = place value)) Failed)
    (nextLeads : ∀ value, Leads (place value) (next value) Returned Failed) :
    Leads custody (first >>= next) Returned Failed :=
  Tracks.bind firstLeads nextLeads

/-- What comes after something whose value is known does not depend on where it comes from. -/
theorem leads_known {β : Type} {first : CommandM ε β} {next : β → CommandM ε α}
    {place : β → Custody} {Known : β → Prop} {Returned : α → Custody → Prop}
    {Failed : ε → Custody → Prop}
    (firstLeads : Leads custody first (fun value now => now = place value ∧ Known value) Failed)
    (nextLeads : ∀ value, Known value → Leads (place value) (next value) Returned Failed) :
    Leads custody (first >>= next) Returned Failed :=
  Tracks.bind firstLeads fun value now settled => nextLeads value settled.2 now settled.1

/-- A cleanup leads on from where a program ends, however that is. -/
theorem leads_ensuring {inside : Custody} {cleanup : CommandM Empty Unit}
    (leads : Leads custody program (fun _ => (· = inside)) fun _ => (· = inside))
    (cleaned : Leads inside cleanup (fun _ => (· = after)) fun _ _ => False) :
    Leads custody (program.ensuring cleanup) (fun _ => (· = after)) fun _ => (· = after) := by
  -- Both results come from the same place.
  refine Tracks.ensuring leads fun result => ?_
  cases result with
  | ok value => exact cleaned
  | error error => exact cleaned

/-- An event that leads nowhere. -/
theorem leads_note {event : CommandEvent} {Failed : ε → Custody → Prop} (still : event.Still) :
    Leads custody (note event : CommandM ε Unit) (fun _ => (· = custody)) Failed := by
  -- The event is always allowed and changes nothing.
  refine tracks_note fun place same => ?_
  cases same
  exact ⟨custody, along_one (still custody), rfl⟩

/-- A call leads to one place if it succeeds, and to another one if it fails. -/
theorem leads_call {event : Outcome → CommandEvent} {failed : Custody}
    (ok : custody.rule (event (.ok ())) = some after)
    (error : ∀ text, custody.rule (event (.error text)) = some failed) :
    Leads custody (askDone event) (fun _ => (· = after)) fun _ => (· = failed) := by
  -- The result decides.
  rintro place rfl
  refine answered_askDone ⟨place, rfl, trivial⟩ fun result => ?_
  cases result with
  | ok _ => exact ⟨after, along_one ok, rfl⟩
  | error text => exact ⟨failed, along_one (error text), rfl⟩

/-- Taking something leads to where it is held, or leaves everything as it is. -/
theorem leads_take {holding : Holding} (kept : custody.keep holding = some after) :
    Leads custody (take holding) (fun _ => (· = after)) fun _ => (· = custody) :=
  leads_call kept fun _ => rfl

/-- A call that takes nothing leads nowhere. -/
theorem leads_askDone {event : Outcome → CommandEvent} (still : ∀ result, (event result).Still) :
    Leads custody (askDone event) (fun _ => (· = custody)) fun _ => (· = custody) :=
  leads_call (still _ custody) fun _ => still _ custody

/-- Giving something back leads to where it is not held. -/
theorem leads_giveBack {holding : Holding} {Failed : ε → Custody → Prop}
    (released : custody.release holding = some after) :
    Leads custody (giveBack holding : CommandM ε Unit) (fun _ => (· = after)) Failed := by
  -- Nothing is answered.
  refine tracks_note fun place same => ?_
  cases same
  exact ⟨after, along_one released, rfl⟩

/-- Sleeping leads nowhere. -/
theorem leads_sleep {duration : Duration} {Failed : ε → Custody → Prop} :
    Leads custody (sleep duration : CommandM ε Unit) (fun _ => (· = custody)) Failed := by
  -- Sleeping is always allowed and changes nothing.
  refine tracks_note fun place same => ?_
  cases same
  exact ⟨custody, rfl, rfl⟩

/-- A question that is answered with yes or no leads nowhere. -/
theorem leads_askFlag {event : Bool → CommandEvent} {Failed : ε → Custody → Prop}
    (still : ∀ value, (event value).Still) :
    Leads custody (askFlag event : CommandM ε Bool) (fun _ => (· = custody)) Failed := by
  -- It cannot fail, either.
  rintro place rfl
  exact answered_askFlag ⟨place, rfl, trivial⟩ fun value =>
    ⟨place, along_one (still value place), rfl⟩

/-- Reading the clock leads nowhere. -/
theorem leads_instantNow {Failed : ε → Custody → Prop} :
    Leads custody (instantNow : CommandM ε Instant) (fun _ => (· = custody)) Failed := by
  rintro place rfl
  exact answered_instantNow ⟨place, rfl, trivial⟩ fun _ => ⟨place, rfl, rfl⟩

/-- What happens on the network leads nowhere. -/
theorem leads_network {program : NetworkM ε α} :
    Leads custody (network program) (fun _ => (· = custody)) fun _ => (· = custody) :=
  leads_still (emits_embed _ _ fun _ _ => rfl)

end Leading
end Scout.Command

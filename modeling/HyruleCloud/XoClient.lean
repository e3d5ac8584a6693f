import HyruleCloud.Safety
import HyruleCloud.Refunds

/-!
The hypervisor as the provisioner sees it, providers/xcpng.py. XO keeps a table
of guests under labels that name a VM and a generation. A command can be
answered or refused; its answer can be lost before it takes effect, afterwards,
or while it is still under way, to take effect at any later time.
-/

namespace HyruleCloud

open Interaction

abbrev Uuid := Nat
abbrev Generation := Nat

inductive Power where
  | running | halted | unknown
  deriving DecidableEq

/-- `hyrule-{vm_id}-{generation}`, or `hyrule-{vm_id}` without a generation. -/
structure Label where
  vm : VmId
  generation : Option Generation
  deriving DecidableEq

structure Guest where
  label : Label
  power : Power
  deriving DecidableEq

/-- The methods that change something. `configure` stands for `_resize_vm` and
the OpenBSD disk preparation, which leave the power state of the guest alone. -/
inductive XoCommand where
  | create (label : Label)
  | configure (guest : Uuid)
  | start (guest : Uuid)
  | stop (guest : Uuid)
  | delete (guest : Uuid)

/-- `VMGuestResultRow`: `received` is the outcome of the guest's report. -/
structure Receipt where
  generation : Generation
  received : Option Bool := none

/-- The database and XO. `delayed` holds the commands that are still under way,
`quoteOf` and `intentOf` are the indexes of the two tables by VM id. -/
structure Site extends Store where
  receipts : Table VmId Receipt
  nextGeneration : Generation
  guests : Table Uuid Guest
  nextUuid : Uuid
  delayed : List XoCommand
  quoteOf : VmId → Option QuoteId
  intentOf : VmId → Option IntentId

/-- `bootAfterCreate=False`: a clone stays halted until it is started. -/
def XoCommand.effect (command : XoCommand) (s : Site) : Site :=
  match command with
  | .create label => { s with
      guests := s.guests.put s.nextUuid ⟨label, .halted⟩
      nextUuid := s.nextUuid + 1 }
  | .configure _ => s
  | .start guest => match s.guests guest with
      | some found => { s with guests := s.guests.put guest { found with power := .running } }
      | none => s
  | .stop guest => match s.guests guest with
      | some found => { s with guests := s.guests.put guest { found with power := .halted } }
      | none => s
  | .delete guest => { s with guests := s.guests.erase guest }

def XoCommand.answer (command : XoCommand) (s : Site) : Option Uuid :=
  match command with
  | .create _ => some s.nextUuid
  | .configure guest | .start guest | .stop guest | .delete guest =>
    (s.guests guest).map fun _ => guest

def guestsLabelled (label : Label) (s : Site) : List Uuid :=
  (List.range s.nextUuid).filter fun guest => (s.guests guest).any (·.label == label)

/-- What a lost command does: nothing, its effect, or its effect later on. -/
inductive Loss where
  | never | applied | delayed

/-- The end of one exchange. `closed` tells a closed socket from a timeout. -/
inductive ExchangeFate where
  | answered
  | refused
  | lost (closed : Bool) (loss : Loss)

def Loss.apply (loss : Loss) (command : XoCommand) (s : Site) : Site :=
  match loss with
  | .never => s
  | .applied => command.effect s
  | .delayed => { s with delayed := s.delayed ++ [command] }

def lostAnswer (closed : Bool) : Err := if closed then .connectionClosed else .timeout

/-- `_xo_exchange` of a command -/
def exchangeCommand (command : XoCommand) (fate : ExchangeFate) (s : Site) :
    Site × Except Err Uuid :=
  match fate with
  | .answered => match command.answer s with
      | some guest => (command.effect s, .ok guest)
      | none => (s, .error .xo)
  | .refused => (s, .error .xo)
  | .lost closed loss => (loss.apply command s, .error (lostAnswer closed))

/-- `_xo_exchange` of a query -/
def exchangeQuery {β : Type} (answer : Site → Option β) (fate : ExchangeFate) (s : Site) :
    Site × Except Err β :=
  match fate with
  | .answered => match answer s with
      | some value => (s, .ok value)
      | none => (s, .error .xo)
  | .refused => (s, .error .xo)
  | .lost closed _ => (s, .error (lostAnswer closed))

end HyruleCloud

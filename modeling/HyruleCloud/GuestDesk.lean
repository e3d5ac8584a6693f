import HyruleCloud.Interleaving
import HyruleCloud.GuestReceipts

/-!
Attempts at the same VM that may overlap. The advisory lock of
services/provisioning_attempt.py is held by a connection, and when the connection
is lost another process can start while the first still runs. The receipts carry
all their columns here; `Site` sees their generation and outcome. A clone gets its
generation and its token from one `prepare_guest_result`, so the token in a guest
is the one issued with the generation in its label. `issued`, `built`, `accepted`
and `deliveries` only record what has happened.
-/

namespace HyruleCloud

open Interaction Function

def ReceiptRow.seen (row : ReceiptRow) : Receipt :=
  { generation := row.generation
    received := row.report.map fun report => report.result.outcome == .succeeded }

/-- The commit of a delivery: the row's guest and its receipt at that moment. -/
structure Delivery where
  vm : VmId
  guest : Option Uuid
  receipt : Option ReceiptRow

structure Desk extends Site where
  owner : VmId → Option Nat
  files : Table VmId ReceiptRow
  issued : Generation → Option Secret
  built : Uuid → Option Label
  accepted : List (Generation × Secret × GuestResult)
  deliveries : List Delivery

inductive LockReq : Type → Type where
  | own (attempt : Nat) (vm : VmId) : LockReq Bool
  | disown (attempt : Nat) (vm : VmId) : LockReq Unit

inductive DeskReq (β : Type) : Type where
  | lock (request : LockReq β)
  | step (request : ProvisionReq β)

/-- The answer, and what `prepare_guest_result` draws and reads. -/
structure DeskChoice where
  answer : ProvisionAnswer
  token : Secret := 0
  deadline : Time := 1
  now : Time := 0

/-- The database and XO have moved on to `s`. -/
def Desk.tracking (d : Desk) (s : Site) : Desk :=
  { d with
    toSite := s
    built := fun guest => d.built guest <|> (s.guests guest).map (·.label) }

def putFile (vm : VmId) (file : ReceiptRow) (d : Desk) : Desk :=
  { d with
    files := d.files.put vm file
    receipts := d.receipts.put vm file.seen }

def prepareFile (vm : VmId) (token : Secret) (deadline now : Time) : Transaction Desk Generation :=
  fun d => match d.vms vm with
  | none => .error (.http 409)
  | some row =>
    match preparedReceipt row.status row.xcpngUuid d.nextGeneration token deadline now with
    | .error error => .error error
    | .ok file => .ok ({ putFile vm file d with
        nextGeneration := d.nextGeneration + 1
        issued := update d.issued d.nextGeneration (some token) }, d.nextGeneration)

def deliverFile (vm : VmId) (suspended : Bool) : Transaction Desk Unit := fun d =>
  match d.vms vm with
  | none => .ok (d, ())
  | some row => .ok ({ d with
      vms := d.vms.put vm { row with status := if suspended then .suspended else .ready }
      deliveries := ⟨vm, row.xcpngUuid, d.files vm⟩ :: d.deliveries }, ())

def inDesk {β : Type} (tx : Transaction Desk β) (answer : ProvisionAnswer) (d : Desk) :
    Option (Desk × Except Err β) :=
  match answer with
  | .commit fate => some (transact tx fate d)
  | _ => none

/-- One request of `_provision_vm_owned`. -/
def stepExec {β : Type} (request : ProvisionReq β) (choice : DeskChoice) (d : Desk) :
    Option (Desk × Except Err β) :=
  match request with
  | .prepareGuestResult vm =>
    inDesk (prepareFile vm choice.token choice.deadline choice.now) choice.answer d
  | .finishProvisioning vm suspended => inDesk (deliverFile vm suspended) choice.answer d
  | request => (request.answered choice.answer d.toSite).map fun (s, reply) =>
    (d.tracking s, reply)

/-- `pg_try_advisory_xact_lock`, and the end of its transaction. -/
def lockExec {β : Type} (request : LockReq β) (answer : ProvisionAnswer) (d : Desk) :
    Option (Desk × Except Err β) :=
  match request with
  | .own attempt vm => match answer with
      | .commit .done => some (if (d.owner vm).isSome then (d, .ok false)
          else ({ d with owner := update d.owner vm (some attempt) }, .ok true))
      | .commit _ => some (d, .error .database)
      | _ => none
  | .disown attempt vm => some (if d.owner vm = some attempt then
      { d with owner := update d.owner vm none } else d, .ok ())

def deskExec {β : Type} (request : DeskReq β) (choice : DeskChoice) (d : Desk) :
    Option (Desk × Except Err β) :=
  match request with
  | .lock request => lockExec request choice.answer d
  | .step request => stepExec request choice d

/-- `_provision_vm`: the attempt under its advisory lock. -/
def ownedAttempt (attempt : Nat) (vm : VmId) : Proc DeskReq Err Unit := do
  if ← Proc.perform (.lock (.own attempt vm)) then do
    let result ← ((provisionVm vm).embed DeskReq.step).attempt
    Proc.perform (.lock (.disown attempt vm))
    Proc.ofReply result
  else pure ()

/-- The rest of the world: a delayed command takes effect, others start, stop and
delete guests, a report arrives, a resume renews the deadline, a restart dispatches
the VM, the application writes its tables, an ownership connection is lost. -/
inductive DeskEvent where
  | late (index : Nat)
  | lifecycle (command : XoCommand)
  | report (vm : VmId) (generation : Generation) (token : Secret) (result : GuestResult)
      (now : Time)
  | renew (vm : VmId) (deadline : Time)
  | dispatch (vm : VmId) (token : Secret) (deadline now : Time)
  | app (store : Store)
  | lose (vm : VmId)

def acceptFile (vm : VmId) (generation : Generation) (token : Secret) (result : GuestResult)
    (now : Time) (d : Desk) : Desk :=
  match acceptedReceipt (d.files vm) generation token result now with
  | .ok file => { putFile vm file d with accepted := (generation, token, result) :: d.accepted }
  | .error _ => d

/-- `renew_provisioning_report_deadline` -/
def renewFile (vm : VmId) (deadline : Time) (d : Desk) : Desk :=
  match d.vms vm, d.files vm with
  | some row, some file =>
    if row.status ≠ .provisioning ∨ row.xcpngUuid = none then d
    else putFile vm (renewedReceipt file deadline) d
  | _, _ => d

/-- `prepare_provisioning_dispatch`; its token is thrown away. -/
def dispatchFile (vm : VmId) (token : Secret) (deadline now : Time) (d : Desk) : Desk :=
  match d.vms vm with
  | none => d
  | some row =>
    if row.ownerWallet = none ∨ (d.files vm).isSome then d
    else match prepareFile vm token deadline now d with
      | .ok (prepared, _) => prepared
      | .error _ => d

def DeskEvent.run (event : DeskEvent) (d : Desk) : Desk :=
  match event with
  | .late index => d.tracking (runDelayed index d.toSite)
  | .lifecycle command => d.tracking (command.effect d.toSite)
  | .report vm generation token result now => acceptFile vm generation token result now d
  | .renew vm deadline => renewFile vm deadline d
  | .dispatch vm token deadline now => dispatchFile vm token deadline now d
  | .app store => d.tracking { d.toSite with toStore := store }
  | .lose vm => { d with owner := update d.owner vm none }

def guestOf (s : Store) (vm : VmId) : Option Uuid := (s.vms vm).bind VMRow.xcpngUuid

def DeskEvent.MayHappen (event : DeskEvent) (d : Desk) : Prop :=
  match event with
  | .app store => ∀ vm, guestOf store vm = guestOf d.toStore vm
  | _ => True

def guestDesk (setting : Setting DeskReq Err Desk DeskChoice) (jobs : Nat → VmId) :
    Workload DeskReq Err Desk DeskChoice DeskEvent Nat where
  setting := setting
  prog attempt := ownedAttempt attempt (jobs attempt)
  env := DeskEvent.run
  mayTick := DeskEvent.MayHappen

/-! What the provisioner sees of the desk is the site. -/

/-- The site shows of every receipt what the provisioner reads of it. -/
def Synced (d : Desk) : Prop := ∀ vm, d.receipts vm = (d.files vm).map ReceiptRow.seen

end HyruleCloud

import HyruleCloud.Provisioning

/-!
The obligation of a paid VM that provisioning has given up. Attempts run one
after the other and may crash; FAILED, the release of the domain claim and the
refund are three commits, and the last one goes through a best-effort ledger.
-/

namespace HyruleCloud

open Interaction

section Charge
variable (vm : VmId) (amount : Usd)

def vmRefunds (s : Store) : List PaymentEventRow :=
  s.events.filter fun event => event.eventType == .refundOwed && event.vmId == some vm

def settledRow (row : VMRow) (s : Store) : Option PaymentEventRow :=
  row.paymentTx.bind fun tx => settledEvent tx s

def chargedPrice (row : VMRow) (s : Site) : Usd :=
  match (s.quoteOf vm).bind s.vmQuotes with
  | some quote => quote.amountUsd
  | none => row.costTotal

inductive VMCharge (s : Site) (row : VMRow) : Prop
  | settled (event : PaymentEventRow) (found : settledRow row s.toStore = some event)
      (price : event.amountUsd = some amount)
  | wallet (lost : settledRow row s.toStore = none)
      (evm : looksLikeEvmWallet row.ownerWallet = true) (price : chargedPrice vm row s = amount)
  | native (lost : settledRow row s.toStore = none)
      (other : looksLikeEvmWallet row.ownerWallet = false) (intent : IntentId)
      (linked : s.intentOf vm = some intent) (paid : CryptoIntentRow)
      (present : s.intents intent = some paid) (price : paid.amountUsd = some amount)
  | unattributed (lost : settledRow row s.toStore = none)
      (other : looksLikeEvmWallet row.ownerWallet = false) (unlinked : s.intentOf vm = none)
      (real : row.paymentTx.any (·.isBypass) = false) (price : chargedPrice vm row s = amount)
      (charged : 0 < row.costTotal)

def Unrefunded (s : Site) : Prop :=
  vmRefunds vm s.toStore = [] ∧ ∀ intent, s.intentOf vm = some intent →
    intentOwed s.toStore intent = false

def PaidRow (failed : Prop) (s : Site) : Prop :=
  ∃ row, s.vms vm = some row ∧ (row.status = .failed ↔ failed) ∧ VMCharge vm amount s row ∧
    Unrefunded vm s

abbrev Pending (s : Site) : Prop := PaidRow vm amount False s

abbrev Owing (s : Site) : Prop := PaidRow vm amount True s

def Refunded (s : Site) : Prop :=
  (∃ row, s.vms vm = some row ∧ row.status = .failed) ∧
    (vmRefunds vm s.toStore).map (·.amountUsd) = [some amount]

def Balanced (s : Site) : Prop := Pending vm amount s ∨ Refunded vm amount s

/-- The steps under which the refund follows FAILED: the commit of FAILED is
acknowledged, and until the refund is written no request fails. -/
def Attended {β : Type} (request : ProvisionReq β) (choice : ProvisionChoice) (s : Site) : Prop :=
  match request with
  | .commitFailed _ => choice.answer ≠ .commit .lost
  | .releaseVmAttachmentClaim _ => True
  | .recordOwed _ => Owing vm amount s → choice.answer ≠ .commit .failed
  | _ => Owing vm amount s → choice.answer = .commit .done ∨ ∃ now, choice.answer = .clocked now .done

def attendedSetting : Setting ProvisionReq Err Site ProvisionChoice where
  exec := ProvisionReq.exec
  permits := Attended vm amount
  mayCrash _ s := ¬ Owing vm amount s

def attemptDuty : Duty Site where
  inv _ := True
  rely s s' := s' = s
  guar _ _ := True
  crash := Balanced vm amount
  rely_refl _ := rfl
  rely_trans first second := second.trans first

end Charge

/-- The ledger, quotes and intents, as far as a charge is read off them. -/
structure SameBooks (s s' : Site) : Prop where
  events : s'.events = s.events
  quotes : s'.vmQuotes = s.vmQuotes
  intents : s'.intents = s.intents
  quoteOf : s'.quoteOf = s.quoteOf
  intentOf : s'.intentOf = s.intentOf

/-- A step that leaves the charge of a VM alone, and does not fail its row. -/
structure Steady (vm : VmId) (s s' : Site) : Prop where
  books : SameBooks s s'
  row : ∀ row, s.vms vm = some row → ∃ next, s'.vms vm = some next ∧
    next.ownerWallet = row.ownerWallet ∧ next.paymentTx = row.paymentTx ∧
    next.costTotal = row.costTotal ∧ next.status = row.status

theorem sameBooks_trans {a b c : Site} (first : SameBooks a b) (second : SameBooks b c) :
    SameBooks a c where
  events := second.events.trans first.events
  quotes := second.quotes.trans first.quotes
  intents := second.intents.trans first.intents
  quoteOf := second.quoteOf.trans first.quoteOf
  intentOf := second.intentOf.trans first.intentOf

variable {s : Site}

variable {vm : VmId}

theorem steady_aside {s' : Site} (rows : s'.vms = s.vms) (books : SameBooks s s') :
    Steady vm s s' :=
  ⟨books, fun row present => ⟨row, by rw [rows]; exact present, rfl, rfl, rfl, rfl⟩⟩

theorem steady_refl (vm : VmId) (s : Site) : Steady vm s s :=
  steady_aside rfl ⟨rfl, rfl, rfl, rfl, rfl⟩

theorem steady_trans {a b c : Site} (first : Steady vm a b) (second : Steady vm b c) :
    Steady vm a c where
  books := sameBooks_trans first.books second.books
  row row present := by
    obtain ⟨middle, here, wallet, tx, cost, status⟩ := first.row row present
    obtain ⟨next, there, wallet', tx', cost', status'⟩ := second.row middle here
    exact ⟨next, there, wallet'.trans wallet, tx'.trans tx, cost'.trans cost,
      status'.trans status⟩

theorem steady_put (other : VmId) (row next : VMRow)
    (present : s.vms other = some row) (wallet : next.ownerWallet = row.ownerWallet)
    (tx : next.paymentTx = row.paymentTx) (cost : next.costTotal = row.costTotal)
    (status : next.status = row.status) :
    Steady vm s { s with vms := s.vms.put other next } :=
  ⟨⟨rfl, rfl, rfl, rfl, rfl⟩, fun _ => put_relates
    (R := fun row next => next.ownerWallet = row.ownerWallet ∧ next.paymentTx = row.paymentTx ∧
      next.costTotal = row.costTotal ∧ next.status = row.status)
    present (fun _ => ⟨rfl, rfl, rfl, rfl⟩) ⟨wallet, tx, cost, status⟩⟩

variable {row : VMRow}

section Books
variable {vm : VmId} {amount : Usd} {s s' : Site} (books : SameBooks s s')
include books

theorem settledRow_same {next : VMRow} (tx : next.paymentTx = row.paymentTx) :
    settledRow next s'.toStore = settledRow row s.toStore := by
  simp only [settledRow, settledEvent, tx, books.events]

theorem vmCharge_same {next : VMRow} (charged : VMCharge vm amount s row)
    (wallet : next.ownerWallet = row.ownerWallet) (tx : next.paymentTx = row.paymentTx)
    (cost : next.costTotal = row.costTotal) : VMCharge vm amount s' next := by
  have rows := settledRow_same books tx
  have price : chargedPrice vm next s' = chargedPrice vm row s := by
    simp only [chargedPrice, books.quoteOf, books.quotes, cost]
  cases charged with
  | settled event found paid => exact .settled event (rows.trans found) paid
  | wallet lost evm paid =>
    exact .wallet (rows.trans lost) (by rw [wallet]; exact evm) (price.trans paid)
  | native lost other intent linked found present paid =>
    exact .native (rows.trans lost) (by rw [wallet]; exact other) intent
      (by rw [books.intentOf]; exact linked) found (by rw [books.intents]; exact present) paid
  | unattributed lost other unlinked real paid positive =>
    exact .unattributed (rows.trans lost) (by rw [wallet]; exact other)
      (by rw [books.intentOf]; exact unlinked) (by rw [tx]; exact real) (price.trans paid)
      (by rw [cost]; exact positive)

theorem unrefunded_same (free : Unrefunded vm s) : Unrefunded vm s' := by
  refine ⟨?_, fun intent linked => ?_⟩
  · simpa only [vmRefunds, books.events] using free.1
  · rw [books.intentOf] at linked
    simpa only [intentOwed, books.events] using free.2 intent linked

end Books

section Steady
variable {vm : VmId} {amount : Usd} {s s' : Site} (steady : Steady vm s s')
include steady

theorem paidRow_steady {failed : Prop} (paid : PaidRow vm amount failed s) :
    PaidRow vm amount failed s' := by
  obtain ⟨row, present, status, charged, free⟩ := paid
  obtain ⟨next, there, wallet, tx, cost, same⟩ := steady.row row present
  exact ⟨next, there, by rw [same]; exact status,
    vmCharge_same steady.books charged wallet tx cost, unrefunded_same steady.books free⟩

theorem refunded_steady (refunded : Refunded vm amount s) : Refunded vm amount s' := by
  obtain ⟨⟨row, present, failed⟩, owed⟩ := refunded
  obtain ⟨next, there, _, _, _, same⟩ := steady.row row present
  refine ⟨⟨next, there, same.trans failed⟩, ?_⟩
  simpa only [vmRefunds, steady.books.events] using owed

theorem balanced_steady (balanced : Balanced vm amount s) : Balanced vm amount s' := by
  rcases balanced with pending | refunded
  · exact Or.inl (paidRow_steady steady pending)
  · exact Or.inr (refunded_steady steady refunded)

end Steady

theorem meanwhile_steady (vm : VmId) (events : List Meanwhile) (s : Site) :
    Steady vm s (meanwhile events s) := by
  induction events generalizing s with
  | nil => exact steady_refl vm s
  | cons event rest ih =>
    refine steady_trans ?_ (ih (event.run s))
    cases event with
    | late index =>
      simp only [Meanwhile.run, runDelayed]
      split
      · rename_i command _
        cases command <;> simp only [XoCommand.effect] <;> (try split) <;>
          exact steady_aside rfl ⟨rfl, rfl, rfl, rfl, rfl⟩
      · exact steady_refl vm s
    | report other generation succeeded =>
      simp only [Meanwhile.run, acceptGuestResult]
      split
      · split
        · exact steady_aside rfl ⟨rfl, rfl, rfl, rfl, rfl⟩
        · exact steady_refl vm s
      · exact steady_refl vm s
    | suspend other reason =>
      simp only [Meanwhile.run]
      split
      · rename_i row present
        exact steady_put other row _ present rfl rfl rfl rfl
      · exact steady_refl vm s
    | disable account disabled => exact steady_aside rfl ⟨rfl, rfl, rfl, rfl, rfl⟩

/-- The requests that neither close the row nor touch its refund. -/
def Calm {β : Type} : ProvisionReq β → Prop
  | .commitFailed _ | .recordOwed _ | .recordNativeIntentRefund _ _ _
  | .finishProvisioning _ _ => False
  | _ => True

theorem effect_steady (vm : VmId) (command : XoCommand) (s : Site) :
    Steady vm s (command.effect s) := by
  cases command <;> simp only [XoCommand.effect] <;> (try split) <;>
    exact steady_aside rfl ⟨rfl, rfl, rfl, rfl, rfl⟩

theorem tracked_steady (vm other : VmId) (guest : Uuid)
    (present : s.vms other = some row) :
    Steady vm s { s with vms := s.vms.put other { row with xcpngUuid := some guest } } :=
  steady_put other row _ present rfl rfl rfl rfl

variable {β : Type}

theorem answered_steady (vm : VmId) (request : ProvisionReq β)
    (answer : ProvisionAnswer) (s s' : Site) (reply : Except Err β) (calm : Calm request)
    (ran : request.answered answer s = some (s', reply)) : Steady vm s s' := by
  have read : ∀ {γ : Type} {read : Site → γ} {reply : Except Err γ},
      inSession (siteRead read) answer s = some (s', reply) → Steady vm s s' := by
    intro γ read reply ran
    obtain ⟨rfl, _⟩ := inSession_read ran
    exact steady_refl vm s'
  have aside : ∀ {failure : String → Err} {reply : Except Err Unit},
      external failure answer s = some (s', reply) → Steady vm s s' := by
    intro failure reply ran
    obtain rfl := external_same ran
    exact steady_refl vm s'
  cases request with
  | exchange command =>
    rcases command_ends ran with ⟨rfl, _⟩ | ⟨rfl, _⟩ | ⟨rfl, _⟩
    · exact steady_refl vm _
    · exact effect_steady vm command s
    · exact steady_aside rfl ⟨rfl, rfl, rfl, rfl, rfl⟩
  | findLabel label | powerState guest | guestExists guest =>
    obtain rfl := query_same ran
    exact steady_refl vm _
  | reconnect | renderConfig other | waitForIpv6 guest | publishDns other => exact aside ran
  | beginProvisioning other | getVm other | capacityLock | getReceipt other
  | checkRestriction other guest | quoteForVm other | intentOfVm other => exact read ran
  | prepareGuestResult other =>
    rcases inSession_ends ran with ⟨rfl, _⟩ | ⟨value, done, _⟩
    · exact steady_refl vm _
    simp only [prepareGuestResult] at done
    repeat' split at done
    all_goals cases done
    exact steady_aside rfl ⟨rfl, rfl, rfl, rfl, rfl⟩
  | adoptGuest other generation guest =>
    rcases inSession_ends ran with ⟨rfl, _⟩ | ⟨value, done, _⟩
    · exact steady_refl vm _
    simp only [adoptGuest] at done
    repeat' split at done
    all_goals cases done
    exact tracked_steady vm other guest (by assumption)
  | storeUuid other guest =>
    rcases inSession_ends ran with ⟨rfl, _⟩ | ⟨value, done, _⟩
    · exact steady_refl vm _
    simp only [storeUuid] at done
    repeat' split at done
    all_goals cases done
    · exact steady_refl vm _
    · exact tracked_steady vm other guest (by assumption)
  | guestResult other generation =>
    rcases inSession_ends ran with ⟨rfl, _⟩ | ⟨value, done, _⟩
    · exact steady_refl vm _
    simp only [guestResult] at done
    repeat' split at done
    all_goals cases done
    exact steady_refl vm _
  | readyToFinish other guest generation =>
    rcases inSession_ends ran with ⟨rfl, _⟩ | ⟨value, done, _⟩
    · exact steady_refl vm _
    simp only [readyToFinish] at done
    repeat' split at done
    all_goals cases done
    all_goals exact steady_refl vm _
  | releaseVmAttachmentClaim other =>
    rcases inSession_ends ran with ⟨rfl, _⟩ | ⟨value, done, _⟩
    · exact steady_refl vm _
    · obtain ⟨store, inner, rfl⟩ := onSite_ok done
      cases inner
      exact steady_aside rfl ⟨rfl, rfl, rfl, rfl, rfl⟩
  | commitFailed _ | recordOwed _ | recordNativeIntentRefund _ _ _ | finishProvisioning _ _ =>
    exact calm.elim

theorem calm_steady (vm : VmId) (request : ProvisionReq β) (choice : ProvisionChoice)
    (s s' : Site) (reply : Except Err β) (calm : Calm request)
    (ran : request.exec choice s = some (s', reply)) : Steady vm s s' :=
  steady_trans (meanwhile_steady vm choice.meanwhile s)
    (answered_steady vm request choice.answer _ s' reply calm ran)

variable {α : Type}

section Attempt
variable {vm : VmId} {amount : Usd}

abbrev AttemptTriple {α : Type} (vm : VmId) (amount : Usd) (pre : Site → Prop)
    (p : Provision α) (post : Except Err α → Site → Prop) : Prop :=
  Triple (attendedSetting vm amount) (attemptDuty vm amount) pre p post

theorem attempt_stable (assertion : Site → Prop) :
    Stable (attemptDuty vm amount) assertion := by
  rintro s s' holds rfl _
  exact holds

theorem attempt_step {pre : Site → Prop} {post : Except Err β → Site → Prop}
    (request : ProvisionReq β)
    (dies : ∀ s, pre s → ¬ Owing vm amount s → Balanced vm amount s)
    (runs : ∀ s choice s' reply, pre s → Attended vm amount request choice s →
      request.exec choice s = some (s', reply) → post reply s') :
    AttemptTriple vm amount pre (step request) post :=
  triple_perform request (attempt_stable pre) (fun s _ holds may => dies s holds may)
    fun s choice s' reply _ holds permitted ran =>
      ⟨trivial, trivial, runs s choice s' reply holds permitted ran⟩

theorem attempt_calm {assertion : Site → Prop} (p : Provision α)
    (calm : Within Calm p)
    (dies : ∀ s, assertion s → ¬ Owing vm amount s → Balanced vm amount s)
    (keeps : ∀ s s', assertion s → Steady vm s s' → assertion s') :
    AttemptTriple vm amount assertion p (fun _ => assertion) := by
  refine triple_within p calm (attempt_stable assertion)
    (fun _ s _ _ holds may => dies s holds may) ?_
  intro β request choice s s' reply allowed _ holds _ ran
  exact ⟨trivial, trivial,
    keeps s s' holds (calm_steady vm request choice s s' reply allowed ran)⟩

theorem pending_dies (s : Site) (pending : Pending vm amount s) (_ : ¬ Owing vm amount s) :
    Balanced vm amount s := Or.inl pending

theorem balanced_dies (s : Site) (balanced : Balanced vm amount s) (_ : ¬ Owing vm amount s) :
    Balanced vm amount s := balanced

/-- FAILED is committed, and `charge` is what its session read. -/
def OwingFor (vm : VmId) (amount : Usd) (charge : FailedCharge) (s : Site) : Prop :=
  ∃ row, s.vms vm = some row ∧ row.status = .failed ∧ VMCharge vm amount s row ∧
    Unrefunded vm s ∧ charge = {
      ownerWallet := row.ownerWallet
      amount := some row.costTotal
      paymentTx := row.paymentTx
      settled := settledRow row s.toStore }

variable {charge : FailedCharge} {s s' : Site}

theorem owingFor_owing (owing : OwingFor vm amount charge s) : Owing vm amount s := by
  obtain ⟨row, present, failed, charged, free, _⟩ := owing
  exact ⟨row, present, iff_of_true failed trivial, charged, free⟩

theorem owingFor_steady (steady : Steady vm s s') (owing : OwingFor vm amount charge s) :
    OwingFor vm amount charge s' := by
  obtain ⟨row, present, failed, charged, free, rfl⟩ := owing
  obtain ⟨next, there, wallet, tx, cost, same⟩ := steady.row row present
  refine ⟨next, there, same.trans failed,
    vmCharge_same steady.books charged wallet tx cost, unrefunded_same steady.books free, ?_⟩
  rw [settledRow_same steady.books tx, wallet, tx, cost]

section
variable (owing : OwingFor vm amount charge s)
include owing

theorem owing_settled (event : PaymentEventRow)
    (settled : charge.settled = some event) : event.amountUsd = some amount := by
  obtain ⟨row, present, failed, charged, free, rfl⟩ := owing
  cases charged with
  | settled paid found price =>
    have same : paid = event := Option.some.inj (found.symm.trans settled)
    exact same ▸ price
  | wallet lost | native lost | unattributed lost => cases lost.symm.trans settled

theorem owing_price (lost : charge.settled = none)
    (direct : looksLikeEvmWallet charge.ownerWallet = true ∨ s.intentOf vm = none) :
    (match (s.quoteOf vm).bind s.vmQuotes with
      | some quote => some quote.amountUsd
      | none => charge.amount) = some amount := by
  obtain ⟨row, present, failed, charged, free, rfl⟩ := owing
  have priced : ∀ {price}, chargedPrice vm row s = price →
      (match (s.quoteOf vm).bind s.vmQuotes with
        | some quote => some quote.amountUsd
        | none => some row.costTotal) = some price := by
    rintro price rfl
    unfold chargedPrice
    split <;> rfl
  cases charged with
  | settled paid found => cases found.symm.trans lost
  | wallet _ _ price | unattributed _ _ _ _ price => exact priced price
  | native _ other intent linked =>
    rcases direct with evm | unlinked
    · cases other.symm.trans evm
    · cases linked.symm.trans unlinked

theorem owing_native (lost : charge.settled = none)
    (other : looksLikeEvmWallet charge.ownerWallet = false) (intent : IntentId)
    (linked : s.intentOf vm = some intent) :
    ∃ paid, s.intents intent = some paid ∧ paid.amountUsd = some amount := by
  obtain ⟨row, present, failed, charged, free, rfl⟩ := owing
  cases charged with
  | settled paid found => cases found.symm.trans lost
  | wallet _ evm => cases evm.symm.trans other
  | unattributed _ _ unlinked => cases linked.symm.trans unlinked
  | native _ _ found same paid present price =>
    cases same.symm.trans linked
    exact ⟨paid, present, price⟩

theorem owing_charged (lost : charge.settled = none)
    (other : looksLikeEvmWallet charge.ownerWallet = false) (unlinked : s.intentOf vm = none) :
    charge.isCharged = true := by
  obtain ⟨row, present, failed, charged, free, rfl⟩ := owing
  cases charged with
  | settled paid found => cases found.symm.trans lost
  | wallet _ evm => cases evm.symm.trans other
  | native _ _ intent linked => cases linked.symm.trans unlinked
  | unattributed _ _ _ real _ positive =>
    simp [FailedCharge.isCharged, real, positive]

end

theorem owing_dies (s : Site) (owing : OwingFor vm amount charge s)
    (settled : ¬ Owing vm amount s) : Balanced vm amount s :=
  absurd (owingFor_owing owing) settled

theorem attended_read {read : Site → β} {answer : ProvisionAnswer} {s' : Site}
    {reply : Except Err β} (ran : inSession (siteRead read) answer s = some (s', reply))
    (answered : answer = .commit .done ∨ ∃ now, answer = .clocked now .done) :
    s' = s ∧ reply = .ok (read s) := by
  rcases answered with rfl | ⟨now, rfl⟩
  · cases ran
    exact ⟨rfl, rfl⟩
  · cases ran

theorem intent_of_owing (vm : VmId) (amount : Usd) (charge : FailedCharge) :
    AttemptTriple vm amount (OwingFor vm amount charge) (step (.intentOfVm vm))
      (outcome (fun intent s => OwingFor vm amount charge s ∧ intent = s.intentOf vm)
        fun _ _ => False) := by
  refine attempt_step _ owing_dies fun s choice s' reply owing permitted ran => ?_
  have steady := calm_steady vm (.intentOfVm vm) choice s s' reply trivial ran
  obtain ⟨rfl, rfl⟩ := attended_read ran (permitted (owingFor_owing owing))
  exact ⟨owingFor_steady steady owing, rfl⟩

theorem owed_refunds (event : PaymentEventRow) (refund : event.eventType = .refundOwed)
    (target : event.vmId = some vm) (price : event.amountUsd = some amount)
    (owing : OwingFor vm amount charge s) (rows : s'.vms = s.vms)
    (events : s'.events = s.events ++ [event]) : Refunded vm amount s' := by
  obtain ⟨row, present, failed, _, free, _⟩ := owing
  refine ⟨⟨row, by rw [rows]; exact present, failed⟩, ?_⟩
  have before : s.events.filter (fun event => event.eventType == .refundOwed &&
    event.vmId == some vm) = [] := free.1
  simp [vmRefunds, events, List.filter_append, before, refund, target, price]

section
variable (positive : 0 < amount)
include positive

theorem recordOwed_refunds (args : OwedArgs) (payer : Wallet)
    (paid : args.payer = some payer) (price : args.amount = some amount)
    (target : args.vmId = some vm) :
    AttemptTriple vm amount (OwingFor vm amount charge) (step (.recordOwed args))
      (fun _ => Balanced vm amount) := by
  refine attempt_step _ owing_dies fun s choice s' reply owing permitted ran => ?_
  have before := owingFor_steady (meanwhile_steady vm choice.meanwhile s) owing
  have written := permitted (owingFor_owing owing)
  obtain ⟨event, built, refund, _, cost, _, row, _⟩ := built_owed args payer amount paid price positive
  simp only [ProvisionReq.exec, ProvisionReq.answered] at ran
  split at ran
  · rename_i given
    exact absurd given written
  · cases ran
    refine Or.inr (owed_refunds event refund (row.trans target) cost before ?_ ?_) <;>
      simp [recordOwed, built, addEvent]
  · cases ran

theorem recordUnsettled_refunds (reason : String)
    (lost : charge.settled = none) :
    AttemptTriple vm amount (fun s => OwingFor vm amount charge s ∧
        (looksLikeEvmWallet charge.ownerWallet = true ∨ s.intentOf vm = none))
      (recordUnsettled vm charge reason) (fun _ => Balanced vm amount) := by
  have quoted : AttemptTriple vm amount (fun s => OwingFor vm amount charge s ∧
        (looksLikeEvmWallet charge.ownerWallet = true ∨ s.intentOf vm = none))
      (step (.quoteForVm vm)) (outcome (fun quote s =>
        (match quote with
          | some quote => some quote.amountUsd
          | none => charge.amount) = some amount ∧ OwingFor vm amount charge s)
        fun _ _ => False) := by
    refine attempt_step _ (fun s holds => owing_dies s holds.1)
      fun s choice s' reply holds permitted ran => ?_
    obtain ⟨owing, direct⟩ := holds
    have steady := calm_steady vm (.quoteForVm vm) choice s s' reply trivial ran
    obtain ⟨rfl, rfl⟩ := attended_read ran (permitted (owingFor_owing owing))
    have after := owingFor_steady steady owing
    exact ⟨owing_price after lost (by rwa [steady.books.intentOf]), after⟩
  refine triple_bind quoted (fun quote => triple_fact fun price => ?_)
    fun _ _ _ absurd => absurd.elim
  exact recordOwed_refunds positive _ _ rfl price rfl

theorem native_refunds (intent : IntentId) (reason : String)
    (lost : charge.settled = none) (other : looksLikeEvmWallet charge.ownerWallet = false) :
    AttemptTriple vm amount
      (fun s => OwingFor vm amount charge s ∧ some intent = s.intentOf vm)
      (step (.recordNativeIntentRefund intent reason vm))
      (outcome (fun recorded s => recorded = true ∧ Balanced vm amount s) fun _ _ => False) := by
  refine attempt_step _ (fun s holds => owing_dies s holds.1)
    fun s choice s' reply holds permitted ran => ?_
  obtain ⟨owing, linked⟩ := holds
  have steady := meanwhile_steady vm choice.meanwhile s
  have before := owingFor_steady steady owing
  have linked : (meanwhile choice.meanwhile s).intentOf vm = some intent := by
    rw [steady.books.intentOf, ← linked]
  simp only [ProvisionReq.exec, ProvisionReq.answered] at ran
  rcases permitted (owingFor_owing owing) with done | ⟨now, done⟩
  · rw [done] at ran
    cases ran
  rw [done] at ran
  obtain ⟨paid, present, price⟩ := owing_native before lost other intent linked
  obtain ⟨row, _, _, _, free, _⟩ := id before
  have unpaid := free.2 intent linked
  obtain ⟨event, native, refund, _, cost, _, target, _⟩ :=
    nativeOwedEvent_owed intent paid reason (some vm) price positive
  simp only [transact, onSite, recordNativeIntentRefund, present, unpaid, native] at ran
  simp only [Bool.false_eq_true, and_false, if_false, Option.some.injEq, Prod.mk.injEq] at ran
  obtain ⟨rfl, rfl⟩ := ran
  obtain ⟨rows, events, _⟩ := failHandedOrder_columns intent paid reason now
    (meanwhile choice.meanwhile s).toStore
  refine ⟨rfl, Or.inr (owed_refunds event refund target cost before ?_ ?_)⟩
  · simpa only [addEvent] using rows
  · simp only [addEvent, events]

theorem recordNativeRefund_refunds (reason : String)
    (lost : charge.settled = none) (other : looksLikeEvmWallet charge.ownerWallet = false) :
    AttemptTriple vm amount (OwingFor vm amount charge) (recordNativeRefund vm reason)
      (outcome (fun recorded s => (recorded = true ∧ Balanced vm amount s) ∨
        (recorded = false ∧ OwingFor vm amount charge s ∧ s.intentOf vm = none))
        fun _ _ => False) := by
  refine triple_bind (intent_of_owing vm amount charge) (fun intent => ?_)
    fun _ _ _ absurd => absurd.elim
  cases intent with
  | none => exact triple_ret _ fun s _ holds => Or.inr ⟨rfl, holds.1, holds.2.symm⟩
  | some intent =>
    refine triple_weaken (native_refunds positive intent reason lost other)
      (fun _ _ holds => holds) fun reply s _ recorded => ?_
    cases reply with
    | ok recorded' => exact Or.inl recorded
    | error _ => exact recorded

theorem recordVmRefund_refunds (reason : String) :
    AttemptTriple vm amount (OwingFor vm amount charge) (recordVmRefund vm charge reason)
      (fun _ => Balanced vm amount) := by
  cases settled : charge.settled with
  | some event =>
    intro s valid owing
    have price := owing_settled owing event settled
    simp only [recordVmRefund, settled]
    exact recordOwed_refunds positive _ _ rfl price rfl s valid owing
  | none =>
    by_cases evm : looksLikeEvmWallet charge.ownerWallet = true
    · simp only [recordVmRefund, settled, evm, if_true]
      exact triple_enter (recordUnsettled_refunds positive reason settled)
        fun s owing => ⟨owing, Or.inl evm⟩
    · have other : looksLikeEvmWallet charge.ownerWallet = false := by simpa using evm
      simp only [recordVmRefund, settled, other]
      refine triple_bind (recordNativeRefund_refunds positive reason settled other)
        (fun recorded => ?_) fun _ _ _ absurd => absurd.elim
      rintro s valid (⟨rfl, balanced⟩ | ⟨rfl, owing, unlinked⟩)
      · exact triple_ret _ (fun _ _ holds => holds) s valid balanced
      · have charged := owing_charged owing settled other unlinked
        simp only [charged, if_true]
        exact recordUnsettled_refunds positive reason settled s valid ⟨owing, Or.inr unlinked⟩

end

theorem commitFailed_owes (vm : VmId) (amount : Usd) :
    AttemptTriple vm amount (Pending vm amount) (step (.commitFailed vm))
      (outcome (fun charge => OwingFor vm amount charge) fun _ => Pending vm amount) := by
  refine attempt_step _ pending_dies fun s choice s' reply pending permitted ran => ?_
  have before := paidRow_steady (meanwhile_steady vm choice.meanwhile s) pending
  simp only [ProvisionReq.exec, ProvisionReq.answered] at ran
  cases given : choice.answer with
  | commit fate =>
    simp only [given, inSession, Option.some.injEq] at ran
    obtain ⟨row, present, _, charged, free⟩ := id before
    rcases transact_cases _ _ _ _ _ ran with ⟨rfl, error, rfl, _⟩ | ⟨value, done, _, rfl⟩ |
      ⟨_, _, lost, _⟩
    · exact before
    · obtain ⟨store, inner, rfl⟩ := onSite_ok done
      simp only [commitFailed, present, Except.ok.injEq, Prod.mk.injEq] at inner
      obtain ⟨rfl, rfl⟩ := inner
      have books : ∀ rows, SameBooks (meanwhile choice.meanwhile s)
          { meanwhile choice.meanwhile s with vms := rows } := fun _ => ⟨rfl, rfl, rfl, rfl, rfl⟩
      exact ⟨{ row with status := .failed }, by simp, rfl,
        vmCharge_same (books _) charged rfl rfl rfl, free, rfl⟩
    · exact absurd given (lost ▸ permitted)
  | _ => simp [given, inSession] at ran

theorem settleFailure_balances (positive : 0 < amount) (error : Err) :
    AttemptTriple vm amount (Pending vm amount) (settleFailure vm error)
      (fun _ => Balanced vm amount) := by
  refine triple_bind (commitFailed_owes vm amount) (fun charge => ?_)
    fun _ _ _ pending => Or.inl pending
  have released : AttemptTriple vm amount (OwingFor vm amount charge)
      (ignoreErrors (step (.releaseVmAttachmentClaim vm)))
      (outcome (fun _ => OwingFor vm amount charge) fun _ _ => False) := by
    have tried : AttemptTriple vm amount (OwingFor vm amount charge)
        (do let _ ← step (.releaseVmAttachmentClaim vm); pure ())
        (fun _ => OwingFor vm amount charge) :=
      attempt_calm _ (within_bind (by simp [step, Calm]) fun _ => trivial) owing_dies
        fun _ _ owing steady => owingFor_steady steady owing
    exact triple_rescue tried (fun _ _ _ owing => owing)
      fun _ => triple_ret _ fun _ _ owing => owing
  exact triple_bind released (fun _ => recordVmRefund_refunds positive _)
    fun _ _ _ absurd => absurd.elim

/-- The requests before the failure handler: the row may be delivered, and stays
unrefunded. -/
def Working {β : Type} : ProvisionReq β → Prop
  | .commitFailed _ | .recordOwed _ | .recordNativeIntentRefund _ _ _ => False
  | _ => True

theorem finished_pending {other : VmId} {found : VMRow}
    {status : VMStatus} (pending : Pending vm amount s) (here : s.vms other = some found)
    (delivered : status ≠ .failed) :
    Pending vm amount { s with vms := s.vms.put other { found with status := status } } := by
  obtain ⟨row, present, unfailed, charged, free⟩ := pending
  have books : SameBooks s { s with vms := s.vms.put other { found with status := status } } :=
    ⟨rfl, rfl, rfl, rfl, rfl⟩
  by_cases same : vm = other
  · subst same
    cases present.symm.trans here
    exact ⟨{ found with status := status }, by simp, iff_of_false delivered not_false,
      vmCharge_same books charged rfl rfl rfl, free⟩
  · exact ⟨row, by simpa [same] using present, unfailed,
      vmCharge_same books charged rfl rfl rfl, free⟩

theorem working_pending (request : ProvisionReq β) (choice : ProvisionChoice)
    (reply : Except Err β) (working : Working request) (pending : Pending vm amount s)
    (ran : request.exec choice s = some (s', reply)) : Pending vm amount s' := by
  by_cases calm : Calm request
  · exact paidRow_steady (calm_steady vm request choice s s' reply calm ran) pending
  cases request with
  | finishProvisioning other suspended =>
    have before := paidRow_steady (meanwhile_steady vm choice.meanwhile s) pending
    rcases inSession_ends ran with ⟨rfl, _⟩ | ⟨value, done, _⟩
    · exact before
    obtain ⟨store, inner, rfl⟩ := onSite_ok done
    simp only [HyruleCloud.finishProvisioning] at inner
    split at inner
    · cases inner
      exact before
    · rename_i found here
      cases inner
      exact finished_pending before here (by split <;> exact fun absurd => by cases absurd)
  | commitFailed _ | recordOwed _ | recordNativeIntentRefund _ _ _ => exact working.elim
  | _ => exact absurd trivial calm

end Attempt

section Bringing

theorem harmless_working {p : Provision α} (harmless : Within Harmless p) :
    Within Working p := by
  refine within_mono harmless fun request here => ?_
  cases request with
  | commitFailed _ | recordOwed _ | recordNativeIntentRefund _ _ _ => exact here.elim
  | _ => trivial

theorem query_working (request : ProvisionReq β) (working : Working request) :
    Within Working (xoQuery request) := xoQuery_within request trivial working

theorem createGuest_working (label : Label) : Within Working (createGuest label) :=
  createGuest_within label trivial (fun _ => trivial) fun _ => trivial

theorem adoptCandidate_working (vm : VmId) (generation : Generation) (guest : Uuid) :
    Within Working (adoptCandidate vm generation guest) := by
  refine within_bind (within_attempt (query_working _ trivial)) fun power => ?_
  split
  · exact within_bind (step_within _ trivial) fun _ => trivial
  · trivial
  · trivial

theorem recoverPreUuidGuest_working (vm : VmId) : Within Working (recoverPreUuidGuest vm) := by
  refine within_bind (step_within _ trivial) fun receipt => ?_
  cases receipt with
  | none => trivial
  | some receipt =>
    refine within_bind (query_working _ trivial) fun candidates => ?_
    split
    · refine within_bind (query_working _ trivial) fun legacy => ?_
      split <;> trivial
    · exact within_bind (adoptCandidate_working _ _ _) fun _ => trivial
    · exact within_bind
        (ignoreErrors_within (harmless_working (neutral_harmless (haltGuests_neutral _))))
        fun _ => trivial

theorem createFreshGuest_working (vm : VmId) : Within Working (createFreshGuest vm) :=
  within_bind (query_working _ trivial) fun _ =>
    within_bind (harmless_working (neutral_harmless (destroyGuests_neutral _))) fun _ =>
      within_bind (step_within _ trivial) fun _ =>
        within_bind (createGuest_working _) fun _ =>
          within_bind (step_within _ trivial) fun _ =>
            harmless_working (neutral_harmless (unlessRestricted_neutral vm _))

theorem trackedGuest_working (vm : VmId) (row : VMRow) : Within Working (trackedGuest vm row) := by
  unfold trackedGuest
  split
  · trivial
  refine within_bind (step_within _ trivial) fun _ =>
    within_bind (step_within _ trivial) fun found => ?_
  cases found with
  | none => trivial
  | some current =>
    dsimp only
    split
    · trivial
    refine within_bind (recoverPreUuidGuest_working vm) fun adopted => ?_
    cases adopted with
    | none => exact createFreshGuest_working vm
    | some guest => exact harmless_working (neutral_harmless (unlessRestricted_neutral vm guest))

theorem bringUp_working (vm : VmId) : Within Working (bringUp vm) := by
  refine within_bind (step_within _ trivial) fun found => ?_
  cases found with
  | none => trivial
  | some row =>
    refine within_bind (step_within _ trivial) fun _ => ?_
    split
    · trivial
    refine within_bind (trackedGuest_working vm row) fun guest => ?_
    cases guest with
    | none => trivial
    | some guest => exact harmless_working (deliverGuest_harmless vm guest)

end Bringing

section Attempts
variable {vm : VmId} {amount : Usd}

theorem working_keeps (p : Provision α) (working : Within Working p) :
    AttemptTriple vm amount (Pending vm amount) p (fun _ => Pending vm amount) := by
  refine triple_within p working (attempt_stable _) (fun _ s _ _ holds may =>
    pending_dies s holds may) ?_
  intro β request choice s s' reply allowed _ pending _ ran
  exact ⟨trivial, trivial, working_pending request choice reply allowed pending ran⟩

theorem failProvisioning_balances (positive : 0 < amount) (error : Err) :
    AttemptTriple vm amount (Pending vm amount) (failProvisioning vm error)
      (fun _ => Balanced vm amount) := by
  refine triple_bind (working_keeps _ (step_within (.getVm vm) trivial)) (fun found => ?_)
    fun _ _ _ pending => Or.inl pending
  cases found with
  | none => exact settleFailure_balances positive error
  | some row =>
    dsimp only
    split
    · exact triple_ret _ fun _ _ pending => Or.inl pending
    have stopped := harmless_working (neutral_harmless (stopFailedGuest_neutral row.xcpngUuid))
    refine triple_bind (working_keeps _ stopped) (fun halted => ?_)
      fun _ _ _ pending => Or.inl pending
    split
    · exact settleFailure_balances positive error
    · exact triple_ret _ fun _ _ pending => Or.inl pending

theorem beginProvisioning_pending (vm : VmId) (amount : Usd) :
    AttemptTriple vm amount (Balanced vm amount) (step (.beginProvisioning vm))
      (outcome (fun open' s => Balanced vm amount s ∧ (open' = true → Pending vm amount s))
        fun _ => Balanced vm amount) := by
  refine attempt_step _ balanced_dies fun s choice s' reply balanced _ ran => ?_
  have steady := calm_steady vm (.beginProvisioning vm) choice s s' reply trivial ran
  have after := balanced_steady steady balanced
  obtain ⟨rfl, rfl | rfl⟩ := inSession_read ran
  · refine ⟨after, fun provisioning => ?_⟩
    rcases after with pending | ⟨⟨row, present, failed⟩, _⟩
    · exact pending
    · simp [present, failed] at provisioning
  · exact after

theorem provisionVm_balances (vm : VmId) (amount : Usd) (positive : 0 < amount) :
    AttemptTriple vm amount (Balanced vm amount) (provisionVm vm)
      (fun _ => Balanced vm amount) := by
  refine triple_bind (beginProvisioning_pending vm amount) (fun provisioning => ?_)
    fun _ _ _ balanced => balanced
  cases provisioning with
  | false => exact triple_ret _ fun _ _ holds => holds.1
  | true =>
    have body : AttemptTriple vm amount
        (fun s => Balanced vm amount s ∧ (true = true → Pending vm amount s))
        (bringUp vm) (fun _ => Pending vm amount) :=
      triple_enter (working_keeps _ (bringUp_working vm)) fun _ holds => holds.2 rfl
    refine triple_rescue body (fun _ _ _ pending => Or.inl pending) fun error => ?_
    cases error with
    | generationChanged | recoveryPending => exact triple_ret _ fun _ _ pending => Or.inl pending
    | _ => exact failProvisioning_balances positive _

theorem failed_once_refunded (balanced : Balanced vm amount s)
    (present : s.vms vm = some row) (failed : row.status = .failed) :
    (vmRefunds vm s.toStore).map (·.amountUsd) = [some amount] := by
  rcases balanced with ⟨found, there, unfailed, _⟩ | ⟨_, owed⟩
  · cases present.symm.trans there
    exact absurd failed unfailed.mp
  · exact owed

end Attempts

def attemptsAttended (vm : VmId) (amount : Usd) (attempts : List (List ProvisionChoice))
    (s : Site) : Prop :=
  episodesAdmitted (attendedSetting vm amount) (fun _ : Unit => provisionVm vm)
    (attempts.map fun choices => ((), choices)) s

/-- A paid VM that provisioning has failed is owed its charge, exactly once. -/
theorem failed_vms_refunded (vm : VmId) (amount : Usd) (attempts : List (List ProvisionChoice))
    (s : Site) (positive : 0 < amount) (pending : Pending vm amount s)
    (attended : attemptsAttended vm amount attempts s) :
    ∀ row, (runAttempts vm attempts s).vms vm = some row → row.status = .failed →
      (vmRefunds vm (runAttempts vm attempts s).toStore).map (·.amountUsd) = [some amount] := by
  intro row present failed
  have kept := episodes_keep (attendedSetting vm amount) (attemptDuty vm amount)
    (fun _ : Unit => provisionVm vm) (Balanced vm amount)
    (fun _ => provisionVm_balances vm amount positive) (fun _ _ dead => dead) _ s trivial
    (Or.inl pending) attended
  rw [runAttempts_episodes _ rfl] at kept
  exact failed_once_refunded kept.2 present failed

def brokenVm : VmId := ⟨.request 0, 0⟩

def brokenRow : VMRow :=
  { ownerWallet := some (.evm 1), paymentTx := some (.chain 0), costTotal := 5 }

def brokenSite : Site where
  vmQuotes _ := none
  vms := Table.put (fun _ => none) brokenVm brokenRow
  intents _ := none
  domainQuotes _ := none
  orders _ := none
  domains _ := none
  operations _ := none
  jobs _ := none
  events := [{
    eventType := .settled
    resourcePath := "/v1/vm/create"
    amountUsd := some 5
    payerWallet := some (.evm 1)
    txHash := some (.chain 0) }]
  disabled _ := false
  receipts _ := none
  nextGeneration := 0
  guests _ := none
  nextUuid := 0
  delayed := []
  quoteOf _ := none
  intentOf _ := none

/-- An attempt whose configuration cannot be rendered, up to the commit of FAILED. -/
def brokenAttempt : List ProvisionChoice :=
  [⟨[], .commit .done⟩, ⟨[], .commit .done⟩, ⟨[], .refuse "config"⟩, ⟨[], .commit .done⟩,
    ⟨[], .commit .done⟩]

def refundedAttempt : List ProvisionChoice :=
  brokenAttempt ++ [⟨[], .commit .done⟩, ⟨[], .commit .done⟩]

theorem brokenSite_pending : Pending brokenVm 5 brokenSite := by
  refine ⟨brokenRow, rfl, by simp [brokenRow], .settled _ rfl rfl, by decide, ?_⟩
  intro intent linked
  cases linked

/-- The refund is lost when the process dies behind the commit of FAILED: the
next attempt finds nothing to do. -/
theorem crash_after_failed_unrefunded :
    ¬ ∀ (vm : VmId) (amount : Usd) (attempts : List (List ProvisionChoice)) (s : Site),
      0 < amount → Pending vm amount s → ∀ row, (runAttempts vm attempts s).vms vm = some row →
        row.status = .failed →
        (vmRefunds vm (runAttempts vm attempts s).toStore).map (·.amountUsd) = [some amount] := by
  intro claim
  have owed := claim brokenVm 5 [brokenAttempt, [⟨[], .commit .done⟩]] brokenSite (by decide)
    brokenSite_pending { brokenRow with status := .failed } (by decide +kernel) rfl
  have nothing : vmRefunds brokenVm
      (runAttempts brokenVm [brokenAttempt, [⟨[], .commit .done⟩]] brokenSite).toStore = [] := by
    decide +kernel
  rw [nothing] at owed
  cases owed

theorem attended_failure_refunded :
    (vmRefunds brokenVm (runAttempts brokenVm [refundedAttempt] brokenSite).toStore).map
      (·.amountUsd) = [some 5] := by
  refine failed_vms_refunded brokenVm 5 [refundedAttempt] brokenSite (by decide)
    brokenSite_pending ?_ { brokenRow with status := .failed } (by decide +kernel) rfl
  have unfailed : ∀ {s : Site}, (s.vms brokenVm).any (·.status == .failed) = false →
      ¬ Owing brokenVm 5 s := by
    rintro s quiet ⟨row, present, failed, _⟩
    simp [present, failed.mpr trivial] at quiet
  have calm : ∀ {s : Site} {p : Prop}, (s.vms brokenVm).any (·.status == .failed) = false →
      Owing brokenVm 5 s → p := fun quiet owing => absurd owing (unfailed quiet)
  exact ⟨⟨calm rfl, calm rfl, calm rfl, calm rfl, nofun, trivial,
    (fun _ absurd => by cases absurd), trivial⟩, trivial⟩

end HyruleCloud

import HyruleCloud.BoundCheckouts

/-!
The handler against any number of others: what it knows after each request, up to the
settlement, and the runs of the system.
-/

namespace HyruleCloud.Checkouts

open Interaction

/-- Every handler keeps the desk sound, and relies on what the others keep. -/
def checkoutDuty : Duty Desk where
  inv := Sound
  rely := Extends
  guar := Extends
  crash _ := True
  rely_refl := extends_refl
  rely_trans := extends_trans

def Lasting (fact : Desk → Prop) : Prop := ∀ desk next, fact desk → Extends desk next → fact next

def Learns {α : Type} (fact : Desk → Prop) (program : CheckoutM α) (learned : α → Desk → Prop) : Prop :=
  Triple checkoutSetting checkoutDuty fact program (outcome learned fun _ _ => True)

section Rules
variable {α β : Type} {fact : Desk → Prop} {learned : α → Desk → Prop}

theorem learns_pure {value : α} (known : ∀ desk, Sound desk → fact desk → learned value desk) :
    Learns fact (pure value) learned := triple_ret value known

theorem learns_refuse {status : Nat} {code : String} : Learns fact (refuse status code) learned :=
  triple_raise _ fun _ _ _ => trivial

theorem learns_raise {error : Err} : Learns fact (.raise error) learned :=
  triple_raise _ fun _ _ _ => trivial

theorem learns_then {first : CheckoutM β} {next : β → CheckoutM α} {middle : β → Desk → Prop}
    (before : Learns fact first middle) (after : ∀ value, Learns (middle value) (next value) learned) :
    Learns fact (first >>= next) learned := triple_then before after

theorem learns_from {wide : Desk → Prop} {program : CheckoutM α} (learns : Learns wide program learned)
    (enters : ∀ desk, Sound desk → fact desk → wide desk) : Learns fact program learned :=
  fun desk sound known => learns desk sound (enters desk sound known)

theorem learns_to {wide : α → Desk → Prop} {program : CheckoutM α}
    (learns : Learns fact program learned)
    (leaves : ∀ value desk, Sound desk → learned value desk → wide value desk) :
    Learns fact program wide := by
  refine triple_weaken learns (fun _ _ known => known) fun result desk sound ended => ?_
  cases result with
  | ok value => exact leaves value desk sound ended
  | error error => trivial

theorem learns_framed {frame : Desk → Prop} {program : CheckoutM α} (lasting : Lasting frame)
    (learns : Learns fact program learned) :
    Learns (fun desk => fact desk ∧ frame desk) program fun value desk =>
      learned value desk ∧ frame desk := by
  have persists := triple_persists (fun desk next known moved _ => lasting desk next known moved)
    (fun desk next known moved _ => lasting desk next known moved) learns
  refine triple_weaken persists (fun _ _ known => known) fun result desk sound ended => ?_
  cases result with
  | ok value => exact ended
  | error error => trivial

theorem learns_given {given : Prop} {program : CheckoutM α} (holds : ∀ desk, fact desk → given)
    (learns : given → Learns fact program learned) : Learns fact program learned :=
  fun desk sound known => learns (holds desk known) desk sound known

theorem learns_perform {request : CheckoutReq β} (lasting : Lasting fact)
    (needs : ∀ desk, Sound desk → fact desk → Needs request desk) :
    Learns fact (Proc.perform request) fun value desk => fact desk ∧ Tells request value desk := by
  apply triple_perform
  · exact fun desk next known moved _ => lasting desk next known moved
  · exact fun _ _ _ _ => trivial
  · intro desk choice next reply sound known permitted ran
    obtain ⟨kept, told⟩ := exec_keeps sound (needs desk sound known) permitted ran
    refine ⟨kept.1, kept.2, ?_⟩
    cases reply with
    | ok value => exact ⟨lasting desk next known kept.2, told value rfl⟩
    | error error => trivial

theorem learns_ask {request : CheckoutReq β} {next : β → CheckoutM α} (told : β → Desk → Prop)
    (lasting : Lasting fact) (needs : ∀ desk, Sound desk → fact desk → Needs request desk)
    (learn : ∀ value desk, Sound desk → fact desk → Tells request value desk → told value desk)
    (after : ∀ value, Learns (told value) (next value) learned) :
    Learns fact (Proc.perform request >>= next) learned :=
  learns_then (learns_perform lasting needs) fun value =>
    learns_from (after value) fun desk sound known => learn value desk sound known.1 known.2

end Rules

theorem lasting_true : Lasting fun _ => True := fun _ _ _ _ => trivial

theorem lasting_and {first second : Desk → Prop} (here : Lasting first) (there : Lasting second) :
    Lasting fun desk => first desk ∧ second desk :=
  fun desk next known moved => ⟨here desk next known.1 moved, there desk next known.2 moved⟩

theorem lasting_known (intent : IntentRow) : Lasting (Known intent) :=
  fun _ _ known moved => known_kept known moved

theorem lasting_offer (id : QuoteId) (offer : Offer) : Lasting (HasOffer id offer) :=
  fun _ _ known moved => moved.tables.quotes id offer known

theorem lasting_bill (id : OrderId) (bill : Bill) : Lasting (HasBill id bill) :=
  fun _ _ known moved => moved.tables.orders id bill known

theorem lasting_agreed (call : Call) (prepared : Prepared) : Lasting (Agreed call prepared) :=
  fun _ _ known moved => ⟨known_kept known.intent moved, moved.tables.quotes _ _ known.offer, known.fits⟩

theorem lasting_fact (fact : Prop) : Lasting fun _ => fact := fun _ _ known _ => known

theorem lasting_offers (id : QuoteId) (reply : Option QuoteRow) :
    Lasting fun desk => ∀ quote ∈ reply, HasOffer id quote.offer desk :=
  fun _ _ known moved quote replied => moved.tables.quotes _ _ (known quote replied)

def Quoted (call : Call) (id : QuoteId) (desk : Desk) : Prop :=
  ∃ offer, HasOffer id offer desk ∧ offer.fqdn = call.body.fqdn

theorem lasting_quoted (call : Call) (id : QuoteId) : Lasting (Quoted call id) :=
  fun _ _ known moved => known.imp fun _ offered => ⟨moved.tables.quotes _ _ offered.1, offered.2⟩

theorem offers_agree {id : QuoteId} {first second : Offer} {desk : Desk} (here : HasOffer id first desk)
    (there : HasOffer id second desk) : first = second := by
  obtain ⟨quote, found, rfl⟩ := here
  obtain ⟨other, also, rfl⟩ := there
  rw [found] at also
  cases also
  rfl

theorem known_of_mem {intent : IntentRow} {desk : Desk} (among : intent ∈ desk.intents) :
    Known intent desk := ⟨intent, among, succeeds_refl intent⟩

/-- A registration as it is loaded: it succeeds what was known of it. -/
structure Loaded (existing : IntentRow) (loaded : Prepared) (desk : Desk) : Prop where
  intent : Known loaded.intent desk
  succeeds : Succeeds existing loaded.intent
  offer : HasOffer loaded.quoteId loaded.quote.offer desk
  order : ∀ order ∈ loaded.order, loaded.intent.row.orderId = some order.1

theorem lasting_loaded (existing : IntentRow) (loaded : Prepared) : Lasting (Loaded existing loaded) :=
  fun _ _ known moved => ⟨known_kept known.intent moved, known.succeeds,
    moved.tables.quotes _ _ known.offer, known.order⟩

theorem readOrder_learns {fact : Desk → Prop} (lasting : Lasting fact) (orderId : Option OrderId) :
    Learns fact (readOrder orderId) fun reply desk => fact desk ∧ ∀ order ∈ reply, orderId = some order.1 := by
  cases orderId with
  | none => exact learns_pure fun _ _ known => ⟨known, nofun⟩
  | some id =>
    refine learns_ask (fun _ => fact) lasting (fun _ _ _ => trivial)
      (fun _ _ _ known _ => known) fun reply => ?_
    refine learns_pure fun _ _ known => ⟨known, fun order replied => ?_⟩
    obtain ⟨row, _, rfl⟩ := Option.map_eq_some_iff.mp replied
    rfl

theorem loadRegistration_learns (existing : IntentRow) :
    Learns (Known existing) (loadRegistration existing.registrationId) (Loaded existing) := by
  refine learns_ask (fun reply desk => ∀ intent ∈ reply, Known intent desk ∧ Succeeds existing intent)
    (lasting_known existing) (fun _ _ _ => trivial) ?_ ?_
  · intro reply desk sound known told intent replied
    obtain ⟨among, same⟩ := told intent replied
    exact ⟨known_of_mem among, known_now sound known among same⟩
  · intro reply
    cases reply with
    | none => exact learns_refuse
    | some intent =>
      have lasting := lasting_and (lasting_known intent) (lasting_fact (Succeeds existing intent))
      refine learns_from ?_ fun desk _ known => known intent rfl
      refine learns_ask (fun quote desk => (Known intent desk ∧ Succeeds existing intent) ∧
        ∀ row ∈ quote, HasOffer intent.row.quoteId row.offer desk) lasting (fun _ _ _ => trivial)
        (fun _ _ _ known told => ⟨known, told⟩) fun quote => ?_
      refine learns_then (readOrder_learns (lasting_and lasting (lasting_offers _ quote))
        intent.row.orderId) fun order => ?_
      cases quote with
      | none => exact learns_refuse
      | some quote =>
        exact learns_pure fun _ _ known =>
          ⟨known.1.1.1, known.1.1.2, known.1.2 quote rfl, known.2⟩

section
variable {fact : Desk → Prop} (lasting : Lasting fact) (call : Call)
include lasting

theorem createMarketplaceQuote_learns :
    Learns fact (createMarketplaceQuote call) fun quote desk =>
      fact desk ∧ HasOffer quote.1 quote.2.offer desk ∧ quote.2.offer.fqdn = call.body.fqdn := by
  refine learns_ask (fun id desk => fact desk ∧ Quoted call id desk) lasting (fun _ _ _ => trivial)
    (fun _ _ _ known told => ⟨known, told⟩) fun id => ?_
  refine learns_ask (fun reply desk => fact desk ∧ ∀ quote ∈ reply,
    HasOffer id quote.offer desk ∧ quote.offer.fqdn = call.body.fqdn)
    (lasting_and lasting (lasting_quoted call id)) (fun _ _ _ => trivial) ?_ fun reply => ?_
  · intro reply desk _ known told
    refine ⟨known.1, fun quote replied => ?_⟩
    obtain ⟨offer, offered, fqdn⟩ := known.2
    rw [offers_agree offered (told quote replied)] at fqdn
    exact ⟨told quote replied, fqdn⟩
  · cases reply with
    | none => exact learns_refuse
    | some quote => exact learns_pure fun _ _ known => ⟨known.1, known.2 quote rfl⟩

theorem validateForCall_learns (quote : QuoteRow) (order : Option (OrderId × OrderRow)) :
    Learns fact (validateForCall call quote order) fun _ desk => fact desk ∧ Fits call quote.offer := by
  refine learns_ask (fun _ => fact) lasting (fun _ _ _ => trivial) (fun _ _ _ known _ => known)
    fun now => ?_
  cases passed : validateRegistrationQuote call.termsVersion quote call.body.fqdn call.accountId
    call.body.maxPriceUsd order.isSome (order.any fun order => order.2.paidAt.isSome) now with
  | error error => exact learns_raise
  | ok done =>
    have validated := quote_validated passed
    exact learns_pure fun _ _ known => ⟨known, validated.fqdn, validated.maximum⟩

theorem validateNamed_learns
    (quote : QuoteRow) : Learns fact (validateNamed call quote) fun _ => fact := by
  unfold validateNamed
  split
  · exact learns_to (validateForCall_learns lasting call quote none) fun _ _ _ known => known.1
  · exact learns_pure fun _ _ known => known

end

theorem refreshQuote_learns (call : Call) (existing : IntentRow) (loaded : Prepared)
    (named : existing.fqdn = call.body.fqdn) :
    Learns (Loaded existing loaded) (refreshQuote call loaded) (Loaded existing) := by
  unfold refreshQuote
  split
  · exact learns_refuse
  refine learns_given (fun _ known => known.succeeds) fun succeeds => ?_
  have lasting := lasting_loaded existing loaded
  refine learns_then (validateNamed_learns lasting call loaded.quote) fun _ => ?_
  refine learns_then (createMarketplaceQuote_learns lasting call) fun replacement => ?_
  refine learns_ask (fun _ => Known loaded.intent)
    (lasting_and lasting (lasting_and (lasting_offer _ _) (lasting_fact _))) ?_
    (fun _ _ _ known _ => known.1.intent) fun _ => ?_
  · rintro desk _ ⟨known, offered, fqdn⟩
    exact ⟨loaded.intent, _, known.intent, rfl, offered, fqdn.trans (named.symm.trans succeeds.fqdn.symm)⟩
  · refine learns_to (loadRegistration_learns loaded.intent) fun current _ _ known => ?_
    exact ⟨known.intent, succeeds_trans succeeds known.succeeds, known.offer, known.order⟩

theorem replayRegistration_learns (call : Call) (existing : IntentRow) :
    Learns (Known existing) (replayRegistration call existing) (Agreed call) := by
  unfold replayRegistration
  split
  · exact learns_refuse
  case isFalse named =>
  split
  · exact learns_refuse
  refine learns_then (loadRegistration_learns existing) fun loaded => ?_
  refine learns_ask (fun _ => Loaded existing loaded) (lasting_loaded existing loaded)
    (fun _ _ _ => trivial) (fun _ _ _ known _ => known) fun now => ?_
  have current : Learns (Loaded existing loaded) (refreshWhereNeeded call loaded now)
      (Loaded existing) := by
    unfold refreshWhereNeeded
    split
    · exact refreshQuote_learns call existing loaded (not_not.mp named)
    · exact learns_pure fun _ _ known => known
  refine learns_then current fun current => ?_
  refine learns_then (validateForCall_learns (lasting_loaded existing current) call _ _) fun _ => ?_
  exact learns_pure fun _ _ known => ⟨known.1.intent, known.1.offer, known.2⟩

theorem requestedQuote_learns (call : Call) :
    Learns (fun _ => True) (requestedQuote call) fun quote => HasOffer quote.1 quote.2.offer := by
  unfold requestedQuote
  split
  · refine learns_ask (fun reply desk => ∀ quote ∈ reply, HasOffer _ quote.offer desk) lasting_true
      (fun _ _ _ => trivial) (fun _ _ _ _ told => told) fun reply => ?_
    cases reply with
    | none => exact learns_refuse
    | some quote => exact learns_pure fun _ _ known => known quote rfl
  · exact learns_to (createMarketplaceQuote_learns lasting_true call) fun _ _ _ known => known.2.1

theorem firstQuote_learns (call : Call) :
    Learns (fun _ => True) (firstQuote call) fun quote desk =>
      HasOffer quote.1 quote.2.offer desk ∧ Fits call quote.2.offer := by
  refine learns_then (requestedQuote_learns call) fun quote => ?_
  refine learns_then (validateForCall_learns (lasting_offer _ _) call quote.2 none) fun _ => ?_
  exact learns_pure fun _ _ known => known

theorem prepareRegistration_learns (call : Call) (depth : Nat) :
    Learns (fun _ => True) (prepareRegistration call depth) (Agreed call) := by
  induction depth with
  | zero => exact learns_raise
  | succ depth deeper =>
    refine learns_ask (fun reply desk => ∀ intent ∈ reply, Known intent desk) lasting_true
      (fun _ _ _ => trivial) (fun _ _ _ _ told intent replied => known_of_mem (told intent replied))
      fun reply => ?_
    cases reply with
    | some existing =>
      exact learns_from (replayRegistration_learns call existing) fun _ _ known => known existing rfl
    | none =>
      refine learns_then (learns_from (firstQuote_learns call) fun _ _ _ => trivial) fun quote => ?_
      have lasting := lasting_and (lasting_offer quote.1 quote.2.offer)
        (lasting_fact (Fits call quote.2.offer))
      refine learns_ask (fun reply desk =>
        (HasOffer quote.1 quote.2.offer desk ∧ Fits call quote.2.offer) ∧
          ∀ intent ∈ reply, Known intent desk ∧ intent.row.quoteId = quote.1) lasting
        (fun _ _ known => ⟨_, known.1, known.2.fqdn⟩) ?_ fun reply => ?_
      · intro reply desk _ known told
        refine ⟨known, fun intent replied => ?_⟩
        obtain ⟨among, same, _⟩ := told intent replied
        exact ⟨known_of_mem among, same⟩
      · cases reply with
        | some intent =>
          refine learns_pure fun desk _ known => ?_
          obtain ⟨⟨offered, fits⟩, inserted⟩ := known
          obtain ⟨there, same⟩ := inserted intent rfl
          exact ⟨there, by rw [Prepared.quoteId, same]; exact offered, fits⟩
        | none =>
          refine learns_from (learns_ask (fun _ _ => True) lasting_true (fun _ _ _ => trivial)
            (fun _ _ _ _ _ => trivial) fun winner => ?_) fun _ _ _ => trivial
          cases winner with
          | none => exact learns_refuse
          | some winner =>
            dsimp only
            split
            · exact learns_refuse
            · exact deeper

theorem recoverOrder_learns {call : Call} {prepared : Prepared} (ordered : Ordered)
    (bound : ordered.intent.row.orderId = some ordered.orderId) :
    Learns (fun desk => Known ordered.intent desk ∧
        Agreed call prepared desk ∧ HasBill ordered.orderId prepared.bill desk) (recoverOrder ordered)
      fun order desk => Agreed call prepared desk ∧ HasBill order.1 prepared.bill desk := by
  have lasting : Lasting fun desk => Agreed call prepared desk ∧
      HasBill ordered.orderId prepared.bill desk :=
    lasting_and (lasting_agreed call prepared) (lasting_bill _ _)
  unfold recoverOrder
  dsimp only
  split
  · refine learns_ask (fun _ desk => Known ordered.intent desk ∧
      Agreed call prepared desk ∧ HasBill ordered.orderId prepared.bill desk)
      (lasting_and (lasting_known _) lasting) (fun _ _ _ => trivial) (fun _ _ _ known _ => known) fun _ => ?_
    refine learns_then (learns_framed lasting (loadRegistration_learns ordered.intent)) fun loaded => ?_
    refine learns_pure fun desk _ known => ⟨known.2.1, ?_⟩
    cases read : loaded.order with
    | none => exact known.2.2
    | some order =>
      have bound := (known.1.succeeds.ordered _ bound).1
      rw [known.1.order order read] at bound
      exact Option.some.inj bound ▸ known.2.2
  · exact learns_pure fun _ _ known => known.2

theorem payRegistration_learns (call : Call) (prepared : Prepared) :
    Learns (Agreed call prepared) (payRegistration call prepared) fun _ _ => True := by
  have lasting := lasting_agreed call prepared
  refine learns_ask (fun _ => Agreed call prepared) lasting (fun _ _ _ => trivial)
    (fun _ _ _ known _ => known) fun payer => ?_
  cases payer with
  | none => exact learns_pure fun _ _ _ => trivial
  | some payer =>
    refine learns_ask (fun _ => Agreed call prepared) lasting (fun _ _ _ => trivial)
      (fun _ _ _ known _ => known) fun owner => ?_
    cases call.authorizationHash with
    | none => exact learns_refuse
    | some hash =>
      refine learns_ask (fun ordered desk => ordered.intent.row.orderId = some ordered.orderId ∧
        Known ordered.intent desk ∧ Agreed call prepared desk ∧
          HasBill ordered.orderId prepared.bill desk) lasting (fun _ _ known => ⟨known, rfl⟩) ?_
        fun ordered => ?_
      · rintro ordered desk _ known ⟨billed, among, _, bound⟩
        exact ⟨bound, known_of_mem among, known, billed⟩
      · refine learns_given (fun _ known => known.1) fun bound => ?_
        refine learns_then (learns_from (recoverOrder_learns ordered bound)
          fun _ _ known => known.2) fun order => ?_
        split
        · exact learns_pure fun _ _ _ => trivial
        refine learns_ask (fun _ _ => True) (lasting_and lasting (lasting_bill _ _))
          (fun _ _ known => known) (fun _ _ _ _ _ => trivial) fun settled => ?_
        split
        · exact learns_pure fun _ _ _ => trivial
        · exact learns_refuse

theorem registerDomainX402_learns (depth : Nat) (call : Call) :
    Learns (fun _ => True) (registerDomainX402 depth call) fun _ _ => True := by
  refine learns_then (prepareRegistration_learns call depth) fun prepared => ?_
  split
  · split
    · exact learns_refuse
    · split
      · exact learns_refuse
      · exact learns_pure fun _ _ _ => trivial
  · exact payRegistration_learns call prepared

theorem checkouts_composable (depth : Nat) (calls : ProcessId → Call) :
    Composable (W := checkouts depth calls) Sound (fun _ => checkoutDuty) (fun _ _ => True)
      (fun _ _ _ => True) where
  shared _ _ := Iff.rfl
  starts process := by
    refine triple_weaken (registerDomainX402_learns depth (calls process)) (fun _ _ known => known) ?_
    exact fun _ _ _ _ => trivial
  idle _ _ _ _ _ _ := trivial
  done _ _ _ _ _ _ _ := trivial
  dead _ _ _ _ _ _ := trivial
  compatible _ _ _ _ _ _ _ moved := moved
  ticks event _ sound _ := by
    have kept := event_keeps event sound
    exact ⟨kept.1, fun _ => kept.2⟩

def emptyDesk : Desk where
  quotes _ := none
  orders _ := none
  accounts _ := none

theorem emptyDesk_sound : Sound emptyDesk where
  keyed := List.nodup_nil
  single := List.nodup_nil
  bound := nofun
  settled := nofun

/-- Whatever interleaves, there is one intent for each `client_order_id`, and every settlement
pays for what its payer was shown, as long as orders are created while the intent still names
the quote that was verified. -/
theorem checkouts_bound (depth : Nat) (calls : ProcessId → Call)
    (schedule : List (Action ProcessId CheckoutChoice CheckoutEvent))
    (admitted : runAdmitted (checkouts depth calls) ⟨emptyDesk, fun _ => .idle⟩ schedule) :
    CheckoutsBound (run (checkouts depth calls) ⟨emptyDesk, fun _ => .idle⟩ schedule).shared := by
  have safe := run_safe (checkouts_composable depth calls) schedule ⟨emptyDesk, fun _ => .idle⟩
    ⟨emptyDesk_sound, fun _ => trivial⟩ admitted
  exact ⟨safe.1.single, safe.1.settled⟩

/-- The two requests of one `client_order_id`; only the first carries a payment. -/
def raceCalls (process : ProcessId) : Call where
  body := { fqdn := 7, clientOrderId := 1, maxPriceUsd := some 10 }
  authorizationHash := if process = 0 then some 1 else none
  termsVersion := 1
  quoteTtlSeconds := 900
  registrationLimit := 5

def payerAccount : CheckoutEvent :=
  .progressed (fun _ => ⟨⟨0, .register, 0, true, false, 0, 0⟩, none, .active⟩)
    (fun _ => ⟨⟨0, 0, 0, 0⟩, none, .awaitingPayment, none⟩) (fun _ => { quoteId := 0, updatedAt := 0 })
    (fun account => if account = 5 then some false else none)

def firstVerified : List (Action ProcessId CheckoutChoice CheckoutEvent) :=
  [.tick payerAccount, .start 0, .step 0 (.commit .done), .step 0 (.priced 1 { totalUsd := 10 } .done),
    .step 0 (.commit .done), .step 0 (.commit .done), .step 0 (.drawn 1 .done),
    .step 0 (.payer (some (.evm 9)))]

def firstSettled (now : Time) : List (Action ProcessId CheckoutChoice CheckoutEvent) :=
  [.step 0 (.owner 5 (.evm 9)), .step 0 (.ordered 1 now .done), .step 0 (.answer (.success (.chain 1)))]

def secondRefreshes : List (Action ProcessId CheckoutChoice CheckoutEvent) :=
  [.tick (.waited 900), .start 1, .step 1 (.commit .done), .step 1 (.commit .done),
    .step 1 (.commit .done), .step 1 (.commit .done), .step 1 (.priced 2 { totalUsd := 15 } .done),
    .step 1 (.commit .done), .step 1 (.commit .done)]

def orderTest {β : Type} (request : CheckoutReq β) (desk : Desk) : Bool :=
  match request with
  | .createMarketplaceOrder _ prepared _ => desk.intents.all fun intent =>
    intent.registrationId ≠ prepared.intent.registrationId || intent.row.quoteId = prepared.quoteId
  | _ => true

def checkoutCheck (depth : Nat) (calls : ProcessId → Call) : Check (checkouts depth calls) where
  reply request _ desk := orderTest request desk
  event _ _ := true
  permits request _ desk passed := by
    cases request with
    | createMarketplaceOrder call prepared bid =>
      intro intent among same
      have named := List.all_eq_true.mp passed intent among
      simpa [same] using named
    | _ => trivial
  mayCrash _ _ := trivial
  mayTick _ _ _ := trivial

theorem checkouts_bound_first :
    CheckoutsBound (run (checkouts 2 raceCalls) ⟨emptyDesk, fun _ => .idle⟩
      (firstVerified ++ firstSettled 0)).shared :=
  checkouts_bound 2 raceCalls (firstVerified ++ firstSettled 0)
    ((checkoutCheck 2 raceCalls).runAdmitted _ _ _ (by decide +kernel))

/-- A refresh between the verification and the order: ten dollars are settled for an order
over fifteen. -/
theorem refreshed_checkout_unbound :
    ¬ ∀ (depth : Nat) (calls : ProcessId → Call)
      (schedule : List (Action ProcessId CheckoutChoice CheckoutEvent)),
      CheckoutsBound (run (checkouts depth calls) ⟨emptyDesk, fun _ => .idle⟩ schedule).shared := by
  intro claim
  have settled := (claim 2 raceCalls (firstVerified ++ secondRefreshes ++ firstSettled 900)).settled
  have listed : (run (checkouts 2 raceCalls) ⟨emptyDesk, fun _ => .idle⟩
      (firstVerified ++ secondRefreshes ++ firstSettled 900)).shared.settlements =
        [⟨(raceCalls 0).body, ⟨1, 7, 1, 10, 1⟩, 1, 10⟩] := by
    decide +kernel
  have ordered : (run (checkouts 2 raceCalls) ⟨emptyDesk, fun _ => .idle⟩
      (firstVerified ++ secondRefreshes ++ firstSettled 900)).shared.orders 1 =
        some ⟨⟨2, 7, 15, 1⟩, some 5, .awaitingPayment, none⟩ := by
    decide +kernel
  rw [listed] at settled
  obtain ⟨order, quote, found, _, paid, _⟩ := settled _ (List.mem_singleton_self _)
  dsimp only at found
  rw [ordered] at found
  cases found
  revert paid
  decide +kernel

end HyruleCloud.Checkouts

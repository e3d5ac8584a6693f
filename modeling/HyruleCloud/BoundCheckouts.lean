import HyruleCloud.RegistrationCheckouts

/-!
Why a settled checkout pays for what it showed. What is written in a quote, in an order and,
once it has its order, in an intent stays; every request keeps that, whoever else is at work,
and a handler may rely on what it has read of it.
-/

namespace HyruleCloud.Checkouts

open Interaction

def billOf (quote : QuoteId) (offer : Offer) : Bill :=
  ⟨quote, offer.fqdn, offer.totalUsd, offer.termsVersion⟩

def HasOffer (id : QuoteId) (offer : Offer) (desk : Desk) : Prop :=
  ∃ quote, desk.quotes id = some quote ∧ quote.offer = offer

def HasBill (id : OrderId) (bill : Bill) (desk : Desk) : Prop :=
  ∃ order, desk.orders id = some order ∧ order.bill = bill

structure Succeeds (intent later : IntentRow) : Prop where
  registrationId : later.registrationId = intent.registrationId
  clientOrderId : later.clientOrderId = intent.clientOrderId
  fqdn : later.fqdn = intent.fqdn
  ordered : ∀ order, intent.row.orderId = some order →
    later.row.orderId = some order ∧ later.row.quoteId = intent.row.quoteId

def Known (intent : IntentRow) (desk : Desk) : Prop := ∃ later ∈ desk.intents, Succeeds intent later

/-- The quotes and the orders stay, in what is never written again. -/
structure KeepsTables (desk next : Desk) : Prop where
  quotes : ∀ id offer, HasOffer id offer desk → HasOffer id offer next
  orders : ∀ id bill, HasBill id bill desk → HasBill id bill next

structure Extends (desk next : Desk) : Prop where
  tables : KeepsTables desk next
  intents : ∀ intent ∈ desk.intents, Known intent next

def Bound (intent : IntentRow) (desk : Desk) : Prop :=
  ∃ offer, HasOffer intent.row.quoteId offer desk ∧ offer.fqdn = intent.fqdn ∧
    ∀ order, intent.row.orderId = some order →
      HasBill order (billOf intent.row.quoteId offer) desk

structure Sound (desk : Desk) : Prop where
  keyed : (desk.intents.map IntentRow.registrationId).Nodup
  single : (desk.intents.map IntentRow.clientOrderId).Nodup
  bound : ∀ intent ∈ desk.intents, Bound intent desk
  settled : ∀ settlement ∈ desk.settlements, PaysFor settlement desk

theorem succeeds_refl (intent : IntentRow) : Succeeds intent intent :=
  ⟨rfl, rfl, rfl, fun _ named => ⟨named, rfl⟩⟩

variable {first second : IntentRow}

theorem succeeds_trans {third : IntentRow} (before : Succeeds first second)
    (after : Succeeds second third) : Succeeds first third where
  registrationId := after.registrationId.trans before.registrationId
  clientOrderId := after.clientOrderId.trans before.clientOrderId
  fqdn := after.fqdn.trans before.fqdn
  ordered order named := by
    obtain ⟨kept, same⟩ := before.ordered order named
    obtain ⟨later, still⟩ := after.ordered order kept
    exact ⟨later, still.trans same⟩

variable {intent : IntentRow} {id : RegistrationId} {now : Time} {orderId : OrderId}
  {ordered : Ordered}

variable {settlement : Settlement}

variable {quote : QuoteRow}

section Extension
variable {desk next : Desk}

theorem tables_refl (desk : Desk) : KeepsTables desk desk :=
  ⟨fun _ _ known => known, fun _ _ known => known⟩

theorem extends_refl (desk : Desk) : Extends desk desk :=
  ⟨tables_refl desk, fun intent among => ⟨intent, among, succeeds_refl intent⟩⟩

theorem known_kept (known : Known intent desk) (moved : Extends desk next) : Known intent next := by
  obtain ⟨later, among, succeeds⟩ := known
  obtain ⟨last, there, after⟩ := moved.intents later among
  exact ⟨last, there, succeeds_trans succeeds after⟩

theorem extends_trans {first second third : Desk} (before : Extends first second)
    (after : Extends second third) : Extends first third where
  tables := ⟨fun id offer known => after.tables.quotes id offer (before.tables.quotes id offer known),
    fun id bill known => after.tables.orders id bill (before.tables.orders id bill known)⟩
  intents intent among := known_kept (before.intents intent among) after

theorem bound_kept (bound : Bound intent desk) (tables : KeepsTables desk next) :
    Bound intent next := by
  obtain ⟨offer, offered, same, ordered⟩ := bound
  exact ⟨offer, tables.quotes _ _ offered, same,
    fun order named => tables.orders _ _ (ordered order named)⟩

theorem pays_kept (pays : PaysFor settlement desk)
    (tables : KeepsTables desk next) : PaysFor settlement next := by
  obtain ⟨order, quote, billed, offered, facts⟩ := pays
  obtain ⟨order', billed', sameBill⟩ := tables.orders _ _ ⟨order, billed, rfl⟩
  obtain ⟨quote', offered', sameOffer⟩ := tables.quotes _ _ ⟨quote, offered, rfl⟩
  rw [← sameBill, ← sameOffer] at facts
  rw [← sameBill] at offered'
  exact ⟨order', quote', billed', offered', facts⟩

theorem settled_kept (sound : Sound desk) (tables : KeepsTables desk next)
    (same : next.settlements = desk.settlements) :
    ∀ settlement ∈ next.settlements, PaysFor settlement next :=
  fun settlement among => pays_kept (sound.settled settlement (same ▸ among)) tables

theorem rewritten_sound {change : IntentRow → IntentRow} (sound : Sound desk)
    (tables : KeepsTables desk next) (same : next.settlements = desk.settlements)
    (rewritten : next.intents = desk.intents.map change)
    (each : ∀ intent ∈ desk.intents, Succeeds intent (change intent) ∧ Bound (change intent) next) :
    Sound next ∧ Extends desk next := by
  have keys : next.intents.map IntentRow.registrationId = desk.intents.map IntentRow.registrationId := by
    rw [rewritten, List.map_map]
    exact List.map_congr_left fun intent among => (each intent among).1.registrationId
  have names : next.intents.map IntentRow.clientOrderId = desk.intents.map IntentRow.clientOrderId := by
    rw [rewritten, List.map_map]
    exact List.map_congr_left fun intent among => (each intent among).1.clientOrderId
  refine ⟨⟨keys ▸ sound.keyed, names ▸ sound.single, ?_, settled_kept sound tables same⟩, tables, ?_⟩
  · intro later among
    rw [rewritten] at among
    obtain ⟨intent, there, rfl⟩ := List.mem_map.mp among
    exact (each intent there).2
  · intro intent among
    exact ⟨change intent, rewritten ▸ List.mem_map_of_mem among, (each intent among).1⟩

theorem untouched_sound (sound : Sound desk) (tables : KeepsTables desk next)
    (intents : next.intents = desk.intents) (same : next.settlements = desk.settlements) :
    Sound next ∧ Extends desk next := by
  have rewritten : next.intents = desk.intents.map id := by rw [intents, List.map_id]
  refine rewritten_sound sound tables same rewritten ?_
  intro intent among
  exact ⟨succeeds_refl intent, bound_kept (sound.bound intent among) tables⟩

theorem appended_sound (sound : Sound desk) (tables : KeepsTables desk next)
    (same : next.settlements = desk.settlements)
    (appended : next.intents = desk.intents ++ [intent])
    (fresh : ∀ other ∈ desk.intents, other.registrationId ≠ intent.registrationId ∧
      other.clientOrderId ≠ intent.clientOrderId) (bound : Bound intent next) :
    Sound next ∧ Extends desk next := by
  refine ⟨⟨?_, ?_, ?_, settled_kept sound tables same⟩, tables, ?_⟩
  · rw [appended, List.map_append, List.map_singleton, ← List.concat_eq_append]
    refine List.Nodup.concat (fun among => ?_) sound.keyed
    obtain ⟨other, there, same⟩ := List.mem_map.mp among
    exact (fresh other there).1 same
  · rw [appended, List.map_append, List.map_singleton, ← List.concat_eq_append]
    refine List.Nodup.concat (fun among => ?_) sound.single
    obtain ⟨other, there, same⟩ := List.mem_map.mp among
    exact (fresh other there).2 same
  · intro other among
    rw [appended] at among
    rcases List.mem_append.mp among with there | last
    · exact bound_kept (sound.bound other there) tables
    · rw [List.mem_singleton.mp last]
      exact bound
  · intro other there
    exact ⟨other, appended ▸ List.mem_append_left _ there, succeeds_refl other⟩

theorem offers_put {id : QuoteId}
    (kept : ∀ before, desk.quotes id = some before → quote.offer = before.offer)
    (quotes : next.quotes = desk.quotes.put id quote) (other : QuoteId) (offer : Offer)
    (known : HasOffer other offer desk) : HasOffer other offer next := by
  obtain ⟨before, found, rfl⟩ := known
  unfold HasOffer
  rw [quotes]
  by_cases same : other = id
  · subst same
    exact ⟨quote, put_same _ _ _, kept before found⟩
  · exact ⟨before, by rw [put_other _ _ same, found], rfl⟩

theorem bills_put {id : OrderId} {order : OrderRow}
    (kept : ∀ before, desk.orders id = some before → order.bill = before.bill)
    (orders : next.orders = desk.orders.put id order) (other : OrderId) (bill : Bill)
    (known : HasBill other bill desk) : HasBill other bill next := by
  obtain ⟨before, found, rfl⟩ := known
  unfold HasBill
  rw [orders]
  by_cases same : other = id
  · subst same
    exact ⟨order, put_same _ _ _, kept before found⟩
  · exact ⟨before, by rw [put_other _ _ same, found], rfl⟩

theorem offers_same (quotes : next.quotes = desk.quotes) (id : QuoteId) (offer : Offer)
    (known : HasOffer id offer desk) : HasOffer id offer next := by
  unfold HasOffer
  rw [quotes]
  exact known

theorem bills_same (orders : next.orders = desk.orders) (id : OrderId) (bill : Bill)
    (known : HasBill id bill desk) : HasBill id bill next := by
  unfold HasBill
  rw [orders]
  exact known

theorem intent_found (found : desk.intent id = some intent) :
    intent ∈ desk.intents ∧ intent.registrationId = id := by
  refine ⟨List.mem_of_find?_eq_some found, ?_⟩
  simpa using List.find?_some found

theorem intents_agree (sound : Sound desk) (here : first ∈ desk.intents)
    (there : second ∈ desk.intents) (same : first.registrationId = second.registrationId) :
    first = second :=
  List.inj_on_of_nodup_map sound.keyed here there same

theorem known_now (sound : Sound desk) {later : IntentRow} (known : Known intent desk)
    (among : later ∈ desk.intents) (same : later.registrationId = intent.registrationId) :
    Succeeds intent later := by
  obtain ⟨now, there, succeeds⟩ := known
  rw [intents_agree sound among there (same.trans succeeds.registrationId.symm)]
  exact succeeds

theorem putIntent_sound {row : RegistrationRow} {desk' : Desk} (sound : Sound desk)
    (tables : KeepsTables desk desk') (intents : desk'.intents = desk.intents)
    (same : desk'.settlements = desk.settlements) (found : desk.intent id = some intent)
    (succeeds : Succeeds intent { intent with row }) (bound : Bound { intent with row } desk') :
    Sound (desk'.putIntent id row) ∧ Extends desk (desk'.putIntent id row) := by
  obtain ⟨among, named⟩ := intent_found found
  have here : KeepsTables desk (desk'.putIntent id row) := ⟨tables.quotes, tables.orders⟩
  refine rewritten_sound sound here same (congrArg (List.map _) intents) ?_
  intro other there
  split
  · case isTrue is =>
    obtain rfl := intents_agree sound there among (is.trans named.symm)
    exact ⟨succeeds, bound⟩
  · exact ⟨succeeds_refl other, bound_kept (sound.bound other there) here⟩

end Extension

/-! What a request needs, and what its reply says. -/

/-- The quote is for the domain of the request and within its maximum. -/
structure Fits (call : Call) (offer : Offer) : Prop where
  fqdn : offer.fqdn = call.body.fqdn
  maximum : ∀ maximum ∈ call.body.maxPriceUsd, offer.totalUsd ≤ maximum

/-- What `prepare_registration` promises. -/
structure Agreed (call : Call) (prepared : Prepared) (desk : Desk) : Prop where
  intent : Known prepared.intent desk
  offer : HasOffer prepared.quoteId prepared.quote.offer desk
  fits : Fits call prepared.quote.offer

def Prepared.bill (prepared : Prepared) : Bill := billOf prepared.quoteId prepared.quote.offer

def Needs : {β : Type} → CheckoutReq β → Desk → Prop
  | _, .rebind id _ replacement, desk =>
    ∃ existing offer, Known existing desk ∧ existing.registrationId = id ∧
      HasOffer replacement offer desk ∧ offer.fqdn = existing.fqdn
  | _, .insertIntent call quote, desk =>
    ∃ offer, HasOffer quote offer desk ∧ offer.fqdn = call.body.fqdn
  | _, .createMarketplaceOrder call prepared bid, desk =>
    Agreed call prepared desk ∧ bid.registrationId = prepared.intent.registrationId
  | _, .settleVerified call prepared orderId _, desk =>
    Agreed call prepared desk ∧ HasBill orderId prepared.bill desk
  | _, _, _ => True

def Tells : {β : Type} → CheckoutReq β → β → Desk → Prop
  | _, .byClientOrderId _, reply, desk => ∀ intent ∈ reply, intent ∈ desk.intents
  | _, .getIntent id, reply, desk =>
    ∀ intent ∈ reply, intent ∈ desk.intents ∧ intent.registrationId = id
  | _, .getQuote id, reply, desk => ∀ quote ∈ reply, HasOffer id quote.offer desk
  | _, .getOrder id, reply, desk => ∀ order ∈ reply, HasBill id order.bill desk
  | _, .createQuote call, id, desk => ∃ offer, HasOffer id offer desk ∧ offer.fqdn = call.body.fqdn
  | _, .insertIntent call quote, reply, desk => ∀ intent ∈ reply,
      intent ∈ desk.intents ∧ intent.row.quoteId = quote ∧ intent.fqdn = call.body.fqdn
  | _, .createMarketplaceOrder _ prepared bid, ordered, desk =>
    HasBill ordered.orderId prepared.bill desk ∧ ordered.intent ∈ desk.intents ∧
      ordered.intent.registrationId = bid.registrationId ∧
      ordered.intent.row.orderId = some ordered.orderId
  | _, _, _, _ => True

structure Validated (terms : TermsVersion) (fqdn : Fqdn) (maxPriceUsd : Option Usd) (paid : Bool)
    (offer : Offer) : Prop where
  fqdn : offer.fqdn = fqdn
  terms : paid = false → offer.termsVersion = terms
  maximum : ∀ maximum ∈ maxPriceUsd, offer.totalUsd ≤ maximum

theorem quote_validated {terms : TermsVersion} {fqdn : Fqdn}
    {requestAccountId : Option AccountId} {maxPriceUsd : Option Usd} {reserved paid : Bool}
    (passed : validateRegistrationQuote terms quote fqdn requestAccountId maxPriceUsd
      reserved paid now = .ok ()) : Validated terms fqdn maxPriceUsd paid quote.offer := by
  unfold validateRegistrationQuote at passed
  dsimp only at passed
  generalize (if reserved then [DomainQuoteStatus.reserved, .consumed] else [.active]) = statuses
    at passed
  split at passed
  · cases passed
  split at passed
  · cases passed
  split at passed
  · cases passed
  split at passed
  · cases passed
  split at passed
  · cases passed
  split at passed
  · cases passed
  split at passed
  · cases passed
  case isFalse matches_ _ _ current _ _ affordable =>
  simp only [not_or, not_not] at matches_
  refine ⟨matches_.1, fun unpaid => ?_, fun maximum given => ?_⟩
  · simpa [unpaid] using current
  · rw [Option.mem_def] at given
    simpa [given] using affordable

variable {call : Call} {prepared : Prepared} {β : Type}

variable {quote : QuoteId} {drawn : OrderId} {owner : AccountId}

section Sessions
variable {desk next : Desk}
variable (sound : Sound desk)
include sound

theorem createQuote_keeps {id value : QuoteId} {pricing : Pricing}
    (done : createQuote call id pricing desk = .ok (next, value)) :
    (Sound next ∧ Extends desk next) ∧
      ∃ offer, HasOffer value offer next ∧ offer.fqdn = call.body.fqdn := by
  unfold createQuote at done
  split at done
  · cases done
  case h_2 fresh =>
  cases done
  refine ⟨untouched_sound sound ⟨offers_put (fun before found => ?_) rfl, bills_same rfl⟩ rfl rfl,
    _, ⟨_, put_same _ _ _, rfl⟩, rfl⟩
  rw [fresh] at found
  cases found

theorem rebind_keeps {replacement : QuoteId}
    (needs : Needs (.rebind id quote replacement) desk)
    (done : rebind id quote replacement desk = .ok (next, ())) :
    Sound next ∧ Extends desk next := by
  obtain ⟨existing, offer, known, named, offered, fqdn⟩ := needs
  unfold rebind at done
  split at done
  · cases done
  case h_2 intent found =>
  split at done
  · case isTrue free =>
    cases done
    obtain ⟨among, same⟩ := intent_found found
    have now := known_now sound known among (same.trans named.symm)
    refine putIntent_sound sound (tables_refl desk) rfl rfl found ?_ ?_
    · exact ⟨rfl, rfl, rfl, fun order ordered => by rw [free.1] at ordered; cases ordered⟩
    · refine ⟨offer, offered, fqdn.trans now.fqdn.symm, fun order ordered => ?_⟩
      rw [free.1] at ordered
      cases ordered
  · cases done
    exact ⟨sound, extends_refl desk⟩

theorem insertIntent_keeps {value : Option IntentRow}
    (needs : Needs (.insertIntent call quote) desk)
    (done : insertIntent call quote id desk = .ok (next, value)) :
    (Sound next ∧ Extends desk next) ∧ Tells (.insertIntent call quote) value next := by
  obtain ⟨offer, offered, fqdn⟩ := needs
  unfold insertIntent at done
  split at done
  · cases done
    exact ⟨⟨sound, extends_refl desk⟩, nofun⟩
  · case isFalse free =>
    cases done
    simp only [Bool.or_eq_true, not_or, Bool.not_eq_true, Option.isSome_eq_false_iff,
      Option.isNone_iff_eq_none] at free
    have fresh (intent : IntentRow) (among : intent ∈ desk.intents) :
        intent.registrationId ≠ id ∧ intent.clientOrderId ≠ call.body.clientOrderId := by
      constructor
      · simpa using List.find?_eq_none.mp free.1 intent among
      · simpa using List.find?_eq_none.mp free.2 intent among
    constructor
    · exact appended_sound sound ⟨offers_same rfl, bills_same rfl⟩ rfl rfl fresh
        ⟨offer, offered, fqdn, nofun⟩
    · intro intent reply
      cases reply
      exact ⟨List.mem_append_right _ (List.mem_singleton_self _), rfl, rfl⟩

omit sound in
theorem putIntent_found (row : RegistrationRow) (found : desk.intent id = some intent) :
    { intent with row } ∈ (desk.putIntent id row).intents := by
  obtain ⟨among, named⟩ := intent_found found
  exact List.mem_map.mpr ⟨intent, among, if_pos named⟩

section
variable {call : Call} {prepared : Prepared} {bid : Bid}

theorem reenterOrder_keeps (agreed : Agreed call prepared desk)
    (found : desk.intent bid.registrationId = some intent)
    (named : intent.row.quoteId = prepared.quoteId) (bound : intent.row.orderId = some orderId)
    (done : reenterOrder bid intent orderId now desk = .ok (next, ordered)) :
    (Sound next ∧ Extends desk next) ∧ Tells (.createMarketplaceOrder call prepared bid) ordered next := by
  obtain ⟨among, registered⟩ := intent_found found
  have billed : HasBill orderId prepared.bill desk := by
    obtain ⟨offer, offered, _, bills⟩ := sound.bound intent among
    obtain ⟨quote, there, same⟩ := offered
    obtain ⟨other, here, agrees⟩ := agreed.offer
    rw [named, here] at there
    cases there
    have bill := bills orderId bound
    rw [named, ← same, agrees] at bill
    exact bill
  unfold reenterOrder at done
  split at done
  · cases done
  dsimp only at done
  split at done
  · cases done
  split at done
  · cases done
    refine ⟨putIntent_sound sound (tables_refl desk) rfl rfl found ?_ (sound.bound intent among),
      billed, putIntent_found _ found, registered, bound⟩
    exact ⟨rfl, rfl, rfl, fun _ named => ⟨named, rfl⟩⟩
  · cases done
    exact ⟨⟨sound, extends_refl desk⟩, billed, among, registered, bound⟩

theorem firstOrder_keeps (agreed : Agreed call prepared desk)
    (found : desk.intent bid.registrationId = some intent)
    (named : intent.row.quoteId = prepared.quoteId) (unbound : intent.row.orderId = none)
    (done : firstOrder call bid intent drawn now desk = .ok (next, ordered)) :
    (Sound next ∧ Extends desk next) ∧ Tells (.createMarketplaceOrder call prepared bid) ordered next := by
  obtain ⟨among, registered⟩ := intent_found found
  unfold firstOrder at done
  split at done
  · cases done
  case h_2 quote there =>
  split at done
  · cases done
  case h_2 passed =>
  have validated := quote_validated passed
  split at done
  · cases done
  split at done
  · cases done
  split at done
  · cases done
  case isFalse fresh =>
  cases done
  let order : OrderRow := {
    bill := ⟨intent.row.quoteId, quote.offer.fqdn, quote.offer.totalUsd, call.termsVersion⟩
    ownerAccountId := some bid.ownerAccountId }
  let reserved : Desk := { desk with
    quotes := desk.quotes.put intent.row.quoteId { quote with status := .reserved }
    orders := desk.orders.put drawn order }
  have tables : KeepsTables desk reserved := by
    refine ⟨offers_put (fun before found => ?_) rfl, bills_put (fun before found => ?_) rfl⟩
    · rw [there] at found
      cases found
      rfl
    · exact absurd (Option.isSome_of_eq_some found) fresh
  have billed : HasBill drawn (billOf intent.row.quoteId quote.offer) reserved := by
    refine ⟨order, put_same _ _ _, ?_⟩
    rw [billOf, validated.terms rfl]
  have same : prepared.quote.offer = quote.offer := by
    obtain ⟨other, here, agrees⟩ := agreed.offer
    rw [← named, there] at here
    cases here
    exact agrees.symm
  constructor
  · refine putIntent_sound sound tables rfl rfl found ⟨rfl, rfl, rfl, ?_⟩
      ⟨quote.offer, ⟨_, put_same _ _ _, rfl⟩, validated.fqdn, ?_⟩
    · intro other ordered
      rw [unbound] at ordered
      cases ordered
    · intro other ordered
      cases ordered
      exact billed
  · have here : reserved.intent bid.registrationId = some intent := found
    refine ⟨?_, putIntent_found _ here, registered, rfl⟩
    rw [Prepared.bill, same, ← named]
    exact billed

theorem createMarketplaceOrder_keeps
    (needs : Needs (.createMarketplaceOrder call prepared bid) desk)
    (names : StillNames prepared desk)
    (done : createMarketplaceOrder call bid drawn now desk = .ok (next, ordered)) :
    (Sound next ∧ Extends desk next) ∧ Tells (.createMarketplaceOrder call prepared bid) ordered next := by
  obtain ⟨agreed, registered⟩ := needs
  unfold createMarketplaceOrder at done
  split at done
  · cases done
  case h_2 intent found =>
  obtain ⟨among, same⟩ := intent_found found
  have named := names intent among (same.trans registered)
  split at done
  · cases done
  split at done
  · cases done
  split at done
  · cases done
  split at done
  · case h_1 orderId bound => exact reenterOrder_keeps sound agreed found named bound done
  · case h_2 unbound => exact firstOrder_keeps sound agreed found named unbound done

end

theorem paymentGuard_keeps {error : Err}
    (swept : paymentGuard orderId owner desk = some (next, error)) :
    Sound next ∧ Extends desk next := by
  have still : Sound desk ∧ Extends desk desk := ⟨sound, extends_refl desk⟩
  unfold paymentGuard at swept
  split at swept
  · cases swept
    exact still
  · case h_2 order there =>
    have bills : ∀ before, desk.orders orderId = some before →
        ({ order with status := .expired } : OrderRow).bill = before.bill := by
      intro before found
      rw [there] at found
      cases found
      rfl
    split at swept
    · cases swept
      exact still
    split at swept
    · cases swept
      exact still
    split at swept
    · cases swept
      exact still
    split at swept
    · cases swept
      exact untouched_sound sound ⟨offers_same rfl, bills_put bills rfl⟩ rfl rfl
    · case h_2 quote offered =>
      split at swept
      · split at swept
        · cases swept
        · cases swept
          exact untouched_sound sound ⟨offers_same rfl, bills_put bills rfl⟩ rfl rfl
      · cases swept
        refine untouched_sound sound ⟨offers_put (fun before found => ?_) rfl, bills_put bills rfl⟩
          rfl rfl
        rw [offered] at found
        cases found
        rfl

theorem settlement_keeps (agreed : Agreed call prepared desk)
    (billed : HasBill orderId prepared.bill desk)
    (settles : settlement = ⟨call.body, prepared.challenge, orderId, prepared.quote.offer.totalUsd⟩)
    :
    Sound { desk with settlements := desk.settlements ++ [settlement] } ∧
      Extends desk { desk with settlements := desk.settlements ++ [settlement] } := by
  have pays : PaysFor settlement desk := by
    obtain ⟨order, there, bill⟩ := billed
    obtain ⟨quote, offered, offer⟩ := agreed.offer
    subst settles
    refine ⟨order, quote, there, by rw [bill]; exact offered, ?_⟩
    rw [bill, offer]
    exact ⟨rfl, agreed.fits.fqdn, rfl, rfl, rfl, agreed.fits.maximum⟩
  refine ⟨{ sound with settled := ?_ }, ⟨offers_same rfl, bills_same rfl⟩,
    (extends_refl desk).intents⟩
  intro other among
  rcases List.mem_append.mp among with before | last
  · exact sound.settled other before
  · rw [List.mem_singleton.mp last]
    exact pays

theorem settleVerified_keeps {answer : FacilitatorAnswer} {reply : Except Err Bool}
    (needs : Needs (.settleVerified call prepared orderId owner) desk)
    (done : settleVerified call prepared orderId owner answer desk = (next, reply)) :
    Sound next ∧ Extends desk next := by
  obtain ⟨agreed, billed⟩ := needs
  have kept := settlement_keeps sound agreed billed rfl
  unfold settleVerified at done
  split at done
  · case h_1 swept =>
    cases done
    exact paymentGuard_keeps sound swept
  · dsimp only at done
    split at done
    · cases done
      exact kept
    · cases done
      exact ⟨sound, extends_refl desk⟩
    · cases done
      split
      · exact kept
      · exact ⟨sound, extends_refl desk⟩

omit sound in
theorem event_keeps (event : CheckoutEvent) (sound : Sound desk) :
    Sound (checkoutEvent event desk) ∧ Extends desk (checkoutEvent event desk) := by
  have still : Sound desk ∧ Extends desk desk := ⟨sound, extends_refl desk⟩
  cases event with
  | waited seconds => exact untouched_sound sound ⟨offers_same rfl, bills_same rfl⟩ rfl rfl
  | quoted id quote =>
    unfold checkoutEvent
    dsimp only
    split
    · exact still
    · case isFalse fresh =>
      refine untouched_sound sound ⟨offers_put (fun before found => ?_) rfl, bills_same rfl⟩ rfl rfl
      exact absurd (Option.isSome_of_eq_some found) fresh
  | ordered id order =>
    unfold checkoutEvent
    dsimp only
    split
    · exact still
    · case isFalse fresh =>
      refine untouched_sound sound ⟨offers_same rfl, bills_put (fun before found => ?_) rfl⟩ rfl rfl
      exact absurd (Option.isSome_of_eq_some found) fresh
  | progressed quotes orders intents accounts =>
    have tables : KeepsTables desk (checkoutEvent (.progressed quotes orders intents accounts) desk) := by
      constructor
      · rintro id offer ⟨quote, found, rfl⟩
        exact ⟨{ quotes id with offer := quote.offer }, by simp [checkoutEvent, found], rfl⟩
      · rintro id bill ⟨order, found, rfl⟩
        exact ⟨{ orders id with bill := order.bill }, by simp [checkoutEvent, found], rfl⟩
    refine rewritten_sound sound tables rfl rfl fun intent among => ⟨?_, ?_⟩
    · exact ⟨rfl, rfl, rfl, fun order named => ⟨named, rfl⟩⟩
    · exact bound_kept (sound.bound intent among) tables

theorem session_keeps {tx : Transaction Desk β} {fate : Fate} {reply : Except Err β}
    {tells : β → Desk → Prop}
    (each : ∀ after value, tx desk = .ok (after, value) →
      (Sound after ∧ Extends desk after) ∧ tells value after)
    (ran : transact tx fate desk = (next, reply)) :
    (Sound next ∧ Extends desk next) ∧ ∀ value, reply = .ok value → tells value next := by
  rcases transact_ends tx desk next reply fate ran with ⟨same, error, failed, _⟩ | ⟨value, done, ended⟩
  · subst same failed
    exact ⟨⟨sound, extends_refl _⟩, nofun⟩
  · obtain ⟨kept, said⟩ := each next value done
    refine ⟨kept, fun other replied => ?_⟩
    rcases ended with answered | lost
    · rw [answered] at replied
      cases replied
      exact said
    · rw [lost] at replied
      cases replied

theorem read_keeps {read : Desk → β} {fate : Fate} {reply : Except Err β}
    (ran : transact (fun desk => .ok (desk, read desk)) fate desk = (next, reply)) :
    (Sound next ∧ Extends desk next) ∧ ∀ value, reply = .ok value → value = read next := by
  have each : ∀ after value, (.ok (desk, read desk) : Except Err (Desk × β)) = .ok (after, value) →
      (Sound after ∧ Extends desk after) ∧ value = read after := by
    intro after value done
    cases done
    exact ⟨⟨sound, extends_refl desk⟩, rfl⟩
  exact session_keeps sound each ran

theorem exec_keeps {request : CheckoutReq β} {choice : CheckoutChoice}
    {reply : Except Err β} (needs : Needs request desk)
    (permitted : OrdersWhatWasVerified request desk)
    (ran : checkoutExec request choice desk = some (next, reply)) :
    (Sound next ∧ Extends desk next) ∧ ∀ value, reply = .ok value → Tells request value next := by
  have still : Sound desk ∧ Extends desk desk := ⟨sound, extends_refl desk⟩
  cases request with
  | byClientOrderId key =>
    cases choice with
    | commit fate =>
      refine (read_keeps sound (Option.some.inj ran)).imp_right fun told value replied => ?_
      intro intent found
      rw [told value replied] at found
      exact List.mem_of_find?_eq_some found
    | _ => cases ran
  | getIntent id =>
    cases choice with
    | commit fate =>
      refine (read_keeps sound (Option.some.inj ran)).imp_right fun told value replied => ?_
      intro intent found
      rw [told value replied] at found
      exact intent_found found
    | _ => cases ran
  | getQuote id =>
    cases choice with
    | commit fate =>
      refine (read_keeps sound (Option.some.inj ran)).imp_right fun told value replied => ?_
      intro quote found
      rw [told value replied] at found
      exact ⟨quote, found, rfl⟩
    | _ => cases ran
  | getOrder id =>
    cases choice with
    | commit fate =>
      refine (read_keeps sound (Option.some.inj ran)).imp_right fun told value replied => ?_
      intro order found
      rw [told value replied] at found
      exact ⟨order, found, rfl⟩
    | _ => cases ran
  | clock =>
    cases choice with
    | commit fate =>
      exact (read_keeps sound (Option.some.inj ran)).imp_right fun _ _ _ => trivial
    | _ => cases ran
  | createQuote call =>
    cases choice with
    | priced id pricing fate =>
      exact session_keeps sound (fun _ _ done => createQuote_keeps sound done)
        (Option.some.inj ran)
    | unavailable =>
      cases ran
      exact ⟨still, nofun⟩
    | _ => cases ran
  | rebind id quote replacement =>
    cases choice with
    | commit fate =>
      exact session_keeps sound (fun _ _ done => ⟨rebind_keeps sound needs done, trivial⟩)
        (Option.some.inj ran)
    | _ => cases ran
  | insertIntent call quote =>
    cases choice with
    | drawn id fate =>
      exact session_keeps sound (fun _ _ done => insertIntent_keeps sound needs done)
        (Option.some.inj ran)
    | _ => cases ran
  | verifyOnly amount challenge =>
    cases choice with
    | payer wallet =>
      cases ran
      exact ⟨still, fun _ _ => trivial⟩
    | _ => cases ran
  | resolveOwner payer =>
    cases choice with
    | owner account wallet =>
      cases ran
      exact ⟨still, fun _ _ => trivial⟩
    | unavailable =>
      cases ran
      exact ⟨still, nofun⟩
    | _ => cases ran
  | createMarketplaceOrder call prepared bid =>
    cases choice with
    | ordered id now fate =>
      exact session_keeps sound
        (fun _ _ done => createMarketplaceOrder_keeps sound needs permitted done)
        (Option.some.inj ran)
    | _ => cases ran
  | recoverHandoffs =>
    cases choice with
    | recovered =>
      cases ran
      exact ⟨still, fun _ _ => trivial⟩
    | unavailable =>
      cases ran
      exact ⟨still, nofun⟩
    | _ => cases ran
  | settleVerified call prepared orderId owner =>
    cases choice with
    | answer answer =>
      exact ⟨settleVerified_keeps sound needs (Option.some.inj ran), fun _ _ => trivial⟩
    | _ => cases ran

end Sessions

end HyruleCloud.Checkouts

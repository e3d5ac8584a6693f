import HyruleCloud.DomainCatalog

/-!
The price of an operation in the registrar's metadata of a TLD. The document labels a node with
an operation by the node's key or by a label of its own; what lies below is of the same
operation unless it is labelled itself. The walk instead looks for the operation's words in
everything that stands above a node.

What the walk finds is traced to its node and to the part of the node that it is read from.
-/

namespace HyruleCloud.TldCatalog

inductive Operation where
  | create | renew | other
  deriving DecidableEq

def Operation.words : Operation → List Text
  | .create => createOperations
  | .renew => renewOperations
  | .other => []

inductive PricePart where
  | reseller | product | plain

/-- A part of a node that may state a price, with the keys in the order of their authority. -/
structure PriceSource where
  part : PricePart
  amounts : List Json
  currencies : List Json

def isNull : Json → Bool
  | .null => true
  | _ => false

def firstStated (values : List Json) : Json := (values.find? fun value => !isNull value).getD .null

/-- A chain of `or`. -/
def pythonOr : List Json → Json
  | [] => .null
  | [value] => value
  | value :: rest => value.orElse (pythonOr rest)

def componentSource (part : PricePart) : Json → List PriceSource
  | .object fields => [⟨part, [get fields "price", get fields "amount"], [get fields "currency"]⟩]
  | _ => []

/-- The reseller's charge comes before the wholesale price of the product. -/
def priceSources (node : Fields) : List PriceSource :=
  let own := match get node "price" with
    | .object fields => componentSource .plain (.object fields)
    | other => [⟨.plain, [other, get node "amount", get node "price_amount"],
        [get node "currency", get node "price_currency"]⟩]
  componentSource .reseller (get node "reseller") ++
    componentSource .product (get node "product") ++ own

def statingSource (node : Fields) : Option PriceSource :=
  (priceSources node).find? fun source => !isNull (firstStated source.amounts)

section Reading

variable (python : PythonText)

def readPrice (source : PriceSource) : Option Price :=
  firstPrice python [(pythonOr source.amounts, pythonOr source.currencies)]

def takenSource (node : Fields) : Option PriceSource :=
  (priceSources node).find? fun source => (readPrice python source).isSome

def ReadAsStated (source : PriceSource) : Prop :=
  pythonOr source.amounts = firstStated source.amounts ∧
    pythonOr source.currencies = firstStated source.currencies ∧
      (firstStated source.currencies).truthy = true

/-- The charge of a node is a number that is not negative, and neither it nor its currency is a
zero or an empty text. -/
def Legible (node : Fields) : Prop :=
  ∃ source, statingSource node = some source ∧ ReadAsStated source ∧
    (readPrice python source).isSome = true

end Reading

section Visits

variable (python : PythonText) (names : Text → Option Operation)

/-- A node as the walk meets it: the text that stands above it, its operation, and whether it is
a part of a node that states a charge. -/
structure Visit where
  context : Text
  owner : Option Operation
  component : Bool
  fields : Fields

def nodeLabel (node : Fields) : Option Operation :=
  ["operation", "action", "type", "name"].findSome? fun key => match get node key with
    | .text text => names (python.lower text)
    | _ => none

def isComponent (node : Fields) (key : Text) : Bool :=
  (statingSource node).isSome && ["reseller".toList, "product".toList, "price".toList].contains key

mutual

def visits (context : Text) (owner : Option Operation) (component : Bool) : Json → List Visit
  | .list items => visitItems context owner component items
  | .object fields =>
    let inner := newContext python context fields
    let operation := (nodeLabel python names fields).or owner
    ⟨inner, operation, component, fields⟩ ::
      visitFields inner operation (isComponent fields) fields
  | _ => []

def visitItems (context : Text) (owner : Option Operation) (component : Bool) :
    List Json → List Visit
  | [] => []
  | item :: rest =>
    visits context owner component item ++ visitItems context owner component rest

def visitFields (context : Text) (owner : Option Operation) (component : Text → Bool) :
    List (Text × Json) → List Visit
  | [] => []
  | (key, value) :: rest =>
    visits (context ++ [' '] ++ python.lower key) ((names (python.lower key)).or owner)
      (component key) value ++ visitFields context owner component rest

end

/-- The nodes of a document. The top level is of no operation, whatever the name of the TLD. -/
def documentVisits (raw : Fields) : List Visit :=
  let inner := newContext python [] raw
  ⟨inner, none, false, raw⟩ :: visitFields python names inner none (isComponent raw) raw

def foundVisit (operation : Operation) (raw : Fields) : Option Visit :=
  (documentVisits python names raw).find? fun visit =>
    (operation.words.any fun term => contains term visit.context) &&
      (priceFromNode python visit.fields).isSome

def Unstated (operation : Operation) (raw : Fields) : Prop :=
  ∀ visit ∈ documentVisits python names raw, visit.owner = some operation →
    visit.component = false → statingSource visit.fields = none

/-- The price is read from a node of the operation, and is the charge that the node states, in
the currency that it states; there is none only where no node states one. -/
def RightlyRead (operation : Operation) (raw : Fields) : Prop :=
  match operationPrice python raw operation.words with
  | none => Unstated python names operation raw
  | some price => ∃ visit source, foundVisit python names operation raw = some visit ∧
      takenSource python visit.fields = some source ∧
      visit.owner = some operation ∧ visit.component = false ∧
      statingSource visit.fields = some source ∧ ReadAsStated source ∧
      python.decimal (python.str (firstStated source.amounts)) = some price.1 ∧
      price.2 = python.upper (python.str (firstStated source.currencies))

/-- The first node that the words of the operation find is one of the operation's, with a
legible charge; where they find none, there is none, and no price for a creation at the top
level. -/
def FoundRightly (operation : Operation) (raw : Fields) : Prop :=
  match foundVisit python names operation raw with
  | none => Unstated python names operation raw ∧
      (operation = .create → priceFromNode python raw = none)
  | some visit => visit.owner = some operation ∧ visit.component = false ∧
      Legible python visit.fields

end Visits

variable {value currency : Json} {price : Fields}

variable {source : PriceSource}

variable {values : List Json} {node : Fields}

section Traces

variable {python : PythonText} {names : Text → Option Operation}

theorem firstPrice_cons (head : Json × Json) (rest : List (Json × Json)) :
    firstPrice python (head :: rest) = (firstPrice python [head]).or (firstPrice python rest) := by
  obtain ⟨amount, currency⟩ := head
  cases amount with
  | null => rfl
  | _ =>
    simp only [firstPrice]
    split
    · rfl
    · split <;> rfl

def PriceSource.read (source : PriceSource) : Json × Json :=
  (pythonOr source.amounts, pythonOr source.currencies)

theorem firstPrice_sources (sources : List PriceSource) :
    firstPrice python (sources.map PriceSource.read) = sources.findSome? (readPrice python) := by
  induction sources with
  | nil => rfl
  | cons source rest inductive_ =>
    rw [List.map_cons, firstPrice_cons, inductive_, List.findSome?_cons]
    unfold readPrice PriceSource.read
    cases firstPrice python [(pythonOr source.amounts, pythonOr source.currencies)] <;> rfl

theorem pricePart_component (part : PricePart) (value : Json) :
    pricePart value = (componentSource part value).map PriceSource.read := by
  cases value <;> rfl

theorem priceFromNode_sources (node : Fields) :
    priceFromNode python node = (priceSources node).findSome? (readPrice python) := by
  rw [← firstPrice_sources]
  unfold priceFromNode priceSources
  rw [List.map_append, List.map_append, ← pricePart_component, ← pricePart_component]
  cases get node "price" with
  | object fields =>
    dsimp only
    rw [pricePart_component .plain (.object fields)]
  | _ => rfl

theorem findSome_find {Item Result : Type} (read : Item → Option Result) (items : List Item) :
    items.findSome? read = (items.find? fun item => (read item).isSome).bind read := by
  induction items with
  | nil => rfl
  | cons item rest inductive_ =>
    cases reads : read item with
    | none => simp [reads, inductive_]
    | some result => simp [reads]

theorem priceFromNode_taken (node : Fields) :
    priceFromNode python node = (takenSource python node).bind (readPrice python) := by
  rw [priceFromNode_sources]
  exact findSome_find _ _

mutual

theorem walk_visits (operations : List Text) (context : Text) (owner : Option Operation)
    (component : Bool) : ∀ tree, walk python operations context tree =
    (visits python names context owner component tree).flatMap fun visit =>
      matchedPrice python operations visit.context visit.fields
  | .null => rfl
  | .bool _ => rfl
  | .number _ => rfl
  | .text _ => rfl
  | .list items => by
    exact walkItems_visits operations context owner component items
  | .object fields => by
    exact congrArg _ (walkFields_visits operations _ _ _ fields)

theorem walkItems_visits (operations : List Text) (context : Text) (owner : Option Operation)
    (component : Bool) : ∀ items, walkItems python operations context items =
      (visitItems python names context owner component items).flatMap fun visit =>
        matchedPrice python operations visit.context visit.fields
  | [] => rfl
  | item :: rest => by
    unfold walkItems visitItems
    rw [List.flatMap_append, ← walk_visits operations context owner component item,
      ← walkItems_visits operations context owner component rest]

theorem walkFields_visits (operations : List Text) (context : Text) (owner : Option Operation)
    (component : Text → Bool) : ∀ fields, walkFields python operations context fields =
      (visitFields python names context owner component fields).flatMap fun visit =>
        matchedPrice python operations visit.context visit.fields
  | [] => rfl
  | (key, value) :: rest => by
    unfold walkFields visitFields
    rw [List.flatMap_append, ← walk_visits operations _ _ _ value,
      ← walkFields_visits operations context owner component rest]

end

theorem document_walk (operations : List Text) (raw : Fields) :
    walk python operations [] (.object raw) =
      (documentVisits python names raw).flatMap fun visit =>
        matchedPrice python operations visit.context visit.fields := by
  exact congrArg _ (walkFields_visits operations _ _ _ raw)

theorem matched_head (python : PythonText) (operations : List Text) (seen : List Visit) :
    (seen.flatMap fun visit => matchedPrice python operations visit.context visit.fields).head? =
      (seen.find? fun visit => (operations.any fun term => contains term visit.context) &&
        (priceFromNode python visit.fields).isSome).bind fun visit =>
          priceFromNode python visit.fields := by
  induction seen with
  | nil => rfl
  | cons visit rest inductive_ =>
    rw [List.flatMap_cons, List.find?_cons]
    cases named : operations.any fun term => contains term visit.context with
    | false => simpa [matchedPrice, named] using inductive_
    | true =>
      cases price : priceFromNode python visit.fields with
      | none => simpa [matchedPrice, named, price] using inductive_
      | some value => simp [matchedPrice, named, price]

theorem operationPrice_found (python : PythonText) (names : Text → Option Operation)
    (operation : Operation) (raw : Fields) :
    operationPrice python raw operation.words =
      match foundVisit python names operation raw with
      | some visit => priceFromNode python visit.fields
      | none => if operation = .create then priceFromNode python raw else none := by
  have head := matched_head python operation.words (documentVisits python names raw)
  rw [← document_walk] at head
  change _ = (foundVisit python names operation raw).bind _ at head
  unfold operationPrice
  cases found : foundVisit python names operation raw with
  | none =>
    rw [found] at head
    have nothing := List.head?_eq_none_iff.mp head
    rw [nothing]
    cases operation <;> rfl
  | some visit =>
    rw [found] at head
    have priced := List.find?_some found
    rw [Bool.and_eq_true] at priced
    obtain ⟨price, is⟩ := Option.isSome_iff_exists.mp priced.2
    dsimp only [Option.bind] at head
    rw [is] at head
    obtain ⟨rest, split⟩ := List.head?_eq_some_iff.mp head
    rw [split]
    exact is.symm

theorem isNull_eq (null : isNull value = true) : value = .null := by
  cases value with
  | null => rfl
  | _ => cases null

theorem pythonOr_null (null : ∀ value ∈ values, isNull value = true) :
    pythonOr values = .null := by
  induction values with
  | nil => rfl
  | cons value rest inductive_ =>
    have here : value = .null := isNull_eq (null value List.mem_cons_self)
    have later := inductive_ fun other among => null other (List.mem_cons_of_mem _ among)
    cases rest with
    | nil => exact here
    | cons next rest =>
      subst here
      exact later

theorem readable_stated (readable : (readPrice python source).isSome = true) :
    (!isNull (firstStated source.amounts)) = true := by
  by_contra absent
  have null : ∀ value ∈ source.amounts, isNull value = true := by
    intro value among
    by_contra present
    have found : (source.amounts.find? fun value => !isNull value).isSome = true :=
      List.find?_isSome.mpr ⟨value, among, by simpa using present⟩
    obtain ⟨first, is⟩ := Option.isSome_iff_exists.mp found
    have some := List.find?_some is
    simp only [firstStated, is, Option.getD_some] at absent
    exact absent some
  simp [readPrice, pythonOr_null null, firstPrice] at readable

theorem firstPrice_single {amount : Json} {price : Price}
    (read : firstPrice python [(amount, currency)] = some price) (truthy : currency.truthy = true) :
    python.decimal (python.str amount) = some price.1 ∧
      price.2 = python.upper (python.str currency) := by
  have present : amount ≠ .null := by
    rintro rfl
    cases read
  have known : firstPrice python [(amount, currency)] =
      (python.decimal (python.str amount)).bind fun value =>
        if 0 ≤ value then
          some (value, python.upper (python.str (currency.orElse (.text "USD".toList))))
        else none := by
    cases amount with
    | null => exact absurd rfl present
    | _ =>
      simp only [firstPrice]
      split <;> rename_i decimal <;> rw [decimal] <;> rfl
  rw [known] at read
  obtain ⟨value, decimal, stated⟩ := Option.bind_eq_some_iff.mp read
  split at stated
  · cases stated
    refine ⟨decimal, ?_⟩
    rw [Json.orElse, if_pos truthy]
  · cases stated

theorem readPrice_stated {price : Price}
    (read : readPrice python source = some price) (same : ReadAsStated source) :
    python.decimal (python.str (firstStated source.amounts)) = some price.1 ∧
      price.2 = python.upper (python.str (firstStated source.currencies)) := by
  obtain ⟨amount, currency, truthy⟩ := same
  unfold readPrice at read
  rw [amount, currency] at read
  exact firstPrice_single read truthy

theorem legible_taken (legible : Legible python node) :
    ∃ source, takenSource python node = some source ∧ statingSource node = some source ∧
      ReadAsStated source := by
  obtain ⟨source, states, same, readable⟩ := legible
  refine ⟨source, ?_, states, same⟩
  obtain ⟨-, before, after, split, silent⟩ := List.find?_eq_some_iff_append.mp states
  apply List.find?_eq_some_iff_append.mpr
  refine ⟨readable, before, after, split, fun other among => ?_⟩
  have unstated := silent other among
  by_contra also
  have stated : (!isNull (firstStated other.amounts)) = true :=
    readable_stated (by simpa [Option.isSome_iff_ne_none] using also)
  rw [stated] at unstated
  cases unstated

theorem rightlyRead_iff (operation : Operation) (raw : Fields) :
    RightlyRead python names operation raw ↔ FoundRightly python names operation raw := by
  unfold RightlyRead FoundRightly
  rw [operationPrice_found python names operation raw]
  cases found : foundVisit python names operation raw with
  | none =>
    by_cases creation : operation = .create
    · rw [if_pos creation]
      cases top : priceFromNode python raw with
      | none => simp
      | some price => simp [creation]
    · rw [if_neg creation]
      simp [creation]
  | some visit =>
    have priced := List.find?_some found
    rw [Bool.and_eq_true] at priced
    obtain ⟨price, is⟩ := Option.isSome_iff_exists.mp priced.2
    dsimp only
    rw [is]
    have read := is
    rw [priceFromNode_taken] at read
    obtain ⟨source, taken, reads⟩ := Option.bind_eq_some_iff.mp read
    constructor
    · rintro ⟨other, also, same, takes, owner, whole, states, kept, -⟩
      cases same
      rw [taken] at takes
      cases takes
      exact ⟨owner, whole, source, states, kept, by rw [reads]; rfl⟩
    · rintro ⟨owner, whole, legible⟩
      obtain ⟨other, takes, states, kept⟩ := legible_taken legible
      rw [taken] at takes
      cases takes
      have stated := readPrice_stated reads kept
      exact ⟨visit, source, rfl, taken, owner, whole, states, kept, stated⟩

end Traces

variable {part : Fields}

section Availability

variable (python : PythonText)

/-- `str(currency or "USD").upper()` -/
def defaultedCurrency (currency : Json) : Text :=
  python.upper (python.str (currency.orElse (.text "USD".toList)))

def knownCurrency (currency : Json) : Option Text :=
  if currency.truthy then some (python.upper (python.str currency)) else none

def componentPrice (price : Fields) : Json × Json :=
  let reseller := match (get price "reseller").orElse (.object []) with
    | .object part => (get part "price", get part "currency")
    | other => (other, .null)
  let product := match (get price "product").orElse (.object []) with
    | .object part =>
      if isNull reseller.1 then (get part "price", reseller.2.orElse (get part "currency"))
      else reseller
    | _ => reseller
  if isNull product.1 then (get price "price", product.2.orElse (get price "currency")) else product

def componentsPrice (price : Fields) : Option Rat × Option Text :=
  let (raw, currency) := componentPrice price
  match raw with
  | .null => (none, knownCurrency python currency)
  | raw => match python.decimal (python.str raw) with
      | none => (none, knownCurrency python currency)
      | some amount => (some amount, some (defaultedCurrency python currency))

/-- `_extract_product_price` -/
def extractProductPrice (result : Fields) : Option Rat × Option Text :=
  match get result "price" with
  | .null => componentsPrice python []
  | .object price => componentsPrice python price
  | price => match python.decimal (python.str price) with
      | some amount => (some amount, some (defaultedCurrency python (get result "currency")))
      | none =>
        let currency := python.upper (python.str ((get result "currency").orElse (.text [])))
        (none, if currency.isEmpty then none else some currency)

/-- An availability answer carries the price object of a node: the node itself with its
components, or its price and its currency. -/
inductive Carries (node result : Fields) : Prop where
  | reseller (part : Fields) (is : get node "reseller" = .object part)
      (priced : isNull (get part "price") = false) (answer : get result "price" = .object node)
  | product (part : Fields) (alone : get node "reseller" = .null)
      (is : get node "product" = .object part) (priced : isNull (get part "price") = false)
      (answer : get result "price" = .object node)
  | nested (part : Fields) (reseller : get node "reseller" = .null)
      (product : get node "product" = .null) (is : get node "price" = .object part)
      (inner : get part "reseller" = .null) (also : get part "product" = .null)
      (priced : isNull (get part "price") = false) (answer : get result "price" = .object part)
  | plain (value : Json) (reseller : get node "reseller" = .null)
      (product : get node "product" = .null) (is : get node "price" = value)
      (scalar : ∀ part, value ≠ .object part) (priced : isNull value = false)
      (stated : isNull (get node "currency") = false) (answer : get result "price" = value)
      (currency : get result "currency" = get node "currency")

variable {python} {node result : Fields}

theorem nonnull_first {rest : List Json} (present : isNull value = false) :
    firstStated (value :: rest) = value := by
  simp [firstStated, present]

theorem single_first (value : Json) : firstStated [value] = value := by
  cases value <;> rfl

theorem extract_scalar {price : Price} (priced : isNull value = false)
    (scalar : ∀ part, value ≠ .object part) (answer : get result "price" = value)
    (carried : get result "currency" = currency)
    (decimal : python.decimal (python.str value) = some price.1) (truthy : currency.truthy = true)
    (is : price.2 = python.upper (python.str currency)) :
    extractProductPrice python result = (some price.1, some price.2) := by
  have named : defaultedCurrency python currency = price.2 := by
    rw [is, defaultedCurrency, Json.orElse, if_pos truthy]
  unfold extractProductPrice
  rw [answer, carried]
  cases value with
  | null => cases priced
  | object part => exact absurd rfl (scalar part)
  | _ =>
    dsimp only
    rw [decimal, named]

theorem extract_components {raw : Json} {found : Price}
    (answer : get result "price" = .object price) (is : componentPrice price = (raw, currency))
    (priced : isNull raw = false) (decimal : python.decimal (python.str raw) = some found.1)
    (truthy : currency.truthy = true) (named : found.2 = python.upper (python.str currency)) :
    extractProductPrice python result = (some found.1, some found.2) := by
  have defaulted : defaultedCurrency python currency = found.2 := by
    rw [named, defaultedCurrency, Json.orElse, if_pos truthy]
  unfold extractProductPrice
  rw [answer]
  dsimp only
  unfold componentsPrice
  rw [is]
  cases raw with
  | null => cases priced
  | _ =>
    dsimp only
    rw [decimal, defaulted]

theorem object_orElse (part : Fields) : (Json.object part).orElse (.object []) = .object part := by
  cases part <;> rfl

theorem reseller_component (is : get price "reseller" = .object part)
    (priced : isNull (get part "price") = false) :
    componentPrice price = (get part "price", get part "currency") := by
  unfold componentPrice
  rw [is, object_orElse]
  cases (get price "product").orElse (.object []) <;> simp [priced]

theorem product_component (alone : get price "reseller" = .null)
    (is : get price "product" = .object part) (priced : isNull (get part "price") = false) :
    componentPrice price = (get part "price", get part "currency") := by
  unfold componentPrice
  have absent : Json.null.orElse (.object []) = .object [] := rfl
  have unpriced : isNull (get ([] : Fields) "price") = true := rfl
  rw [alone, is, object_orElse, absent]
  dsimp only
  rw [if_pos unpriced, if_neg (by simp [priced])]
  rfl

theorem plain_component (reseller : get price "reseller" = .null)
    (product : get price "product" = .null) :
    componentPrice price = (get price "price", get price "currency") := by
  unfold componentPrice
  rw [reseller, product]
  rfl

theorem extract_agrees (legible : Legible python node) (carries : Carries node result) :
    ∃ price, priceFromNode python node = some price ∧
      extractProductPrice python result = (some price.1, some price.2) := by
  obtain ⟨source, taken, states, same⟩ := legible_taken legible
  have readable := List.find?_some taken
  obtain ⟨price, reads⟩ := Option.isSome_iff_exists.mp readable
  obtain ⟨decimal, named⟩ := readPrice_stated reads same
  have truthy := same.2.2
  refine ⟨price, by rw [priceFromNode_taken, taken]; exact reads, ?_⟩
  cases carries with
  | reseller part is priced answer =>
    have known : source = ⟨.reseller, [get part "price", get part "amount"],
        [get part "currency"]⟩ := by
      unfold statingSource priceSources at states
      rw [is] at states
      simpa [componentSource, nonnull_first priced, priced, eq_comm] using states
    subst known
    rw [nonnull_first priced] at decimal
    rw [single_first] at truthy named
    exact extract_components answer (reseller_component is priced) priced decimal truthy named
  | product part alone is priced answer =>
    have known : source = ⟨.product, [get part "price", get part "amount"],
        [get part "currency"]⟩ := by
      unfold statingSource priceSources at states
      rw [alone, is] at states
      simpa [componentSource, nonnull_first priced, priced, eq_comm] using states
    subst known
    rw [nonnull_first priced] at decimal
    rw [single_first] at truthy named
    exact extract_components answer (product_component alone is priced) priced decimal truthy named
  | nested part reseller product is inner also priced answer =>
    have known : source = ⟨.plain, [get part "price", get part "amount"],
        [get part "currency"]⟩ := by
      unfold statingSource priceSources at states
      rw [reseller, product, is] at states
      simpa [componentSource, nonnull_first priced, priced, eq_comm] using states
    subst known
    rw [nonnull_first priced] at decimal
    rw [single_first] at truthy named
    exact extract_components answer (plain_component inner also) priced decimal truthy named
  | plain value reseller product is scalar priced stated answer currency =>
    have known : source = ⟨.plain, [value, get node "amount", get node "price_amount"],
        [get node "currency", get node "price_currency"]⟩ := by
      unfold statingSource priceSources at states
      rw [reseller, product, is] at states
      cases value with
      | null => cases priced
      | object part => exact absurd rfl (scalar part)
      | _ => simpa [componentSource, nonnull_first priced, priced, eq_comm] using states
    subst known
    rw [nonnull_first priced] at decimal
    rw [nonnull_first stated] at truthy named
    exact extract_scalar priced scalar answer currency decimal truthy named

end Availability

variable {python : PythonText}

section Documents

/-- The first amount and the first currency of the stating part are neither zero nor empty. -/
def plainlyStated (python : PythonText) (node : Fields) : Bool :=
  (statingSource node).any fun source => source.amounts.head?.any Json.truthy &&
    source.currencies.head?.any Json.truthy && (readPrice python source).isSome

theorem first_truthy (truthy : values.head?.any Json.truthy = true) :
    pythonOr values = firstStated values ∧ (firstStated values).truthy = true := by
  cases values with
  | nil => cases truthy
  | cons value rest =>
    have present : isNull value = false := by
      cases value with
      | null => cases truthy
      | _ => rfl
    have first : firstStated (value :: rest) = value := nonnull_first present
    rw [first]
    refine ⟨?_, truthy⟩
    cases rest with
    | nil => rfl
    | cons next rest => exact if_pos truthy

theorem plainlyStated_legible
    (plainly : plainlyStated python node = true) : Legible python node := by
  obtain ⟨source, states, checks⟩ := (Option.any_eq_true _ _).mp plainly
  rw [Bool.and_eq_true, Bool.and_eq_true] at checks
  obtain ⟨⟨amount, currency⟩, readable⟩ := checks
  exact ⟨source, states, ⟨(first_truthy amount).1, first_truthy currency⟩, readable⟩

theorem found_plainly {names : Text → Option Operation}
    {operation : Operation} {raw : Fields}
    (found : (foundVisit python names operation raw).any (fun visit =>
      visit.owner = some operation && !visit.component && plainlyStated python visit.fields) =
        true) : FoundRightly python names operation raw := by
  obtain ⟨visit, is, checks⟩ := (Option.any_eq_true _ _).mp found
  rw [Bool.and_eq_true, Bool.and_eq_true] at checks
  obtain ⟨⟨owner, whole⟩, plainly⟩ := checks
  unfold FoundRightly
  rw [is]
  exact ⟨of_decide_eq_true owner, by simpa using whole, plainlyStated_legible plainly⟩

def registrarLabels (label : Text) : Option Operation :=
  if label = "create_price".toList then some .create
  else if label = "renew_price".toList then some .renew
  else if label = "transfer_price".toList then some .other
  else none

def registrarPython : PythonText where
  str := fun value => match value with
    | .text text => text
    | .number value => if value = 0 then "0".toList else []
    | _ => []
  lower := fun text => text.map Char.toLower
  upper := fun text => text.map Char.toUpper
  strip := id
  words := id
  decimal := fun text =>
    if text = "0".toList then some 0
    else if text = "5".toList then some 5
    else if text = "12".toList then some 12
    else if text = "30".toList then some 30
    else none

def component (amount : Json) : Json :=
  .object [("price".toList, amount), ("currency".toList, .text "USD".toList)]

def priceObject (reseller product : Json) : Json :=
  .object [("reseller".toList, component reseller), ("product".toList, component product)]

def tldDocument (name : String) (creation renewal : Json) : Fields :=
  [("name".toList, .text name.toList), ("prices".toList, .object
    [("create_price".toList, priceObject creation (.text "5".toList)),
      ("renew_price".toList, priceObject renewal (.text "5".toList))])]

end Documents

end HyruleCloud.TldCatalog

import Mathlib.Algebra.Order.Ring.Rat

/-!
What the catalog reads out of the registrar's metadata and the IANA table,
domains/catalog.py. Python's conversions of text and numbers are parameters; a missing key is
the same as a null.
-/

namespace HyruleCloud.TldCatalog

abbrev Text := List Char

inductive Json where
  | null
  | bool (value : Bool)
  | number (value : Rat)
  | text (value : Text)
  | list (items : List Json)
  | object (fields : List (Text × Json))

abbrev Fields := List (Text × Json)

/-- `str`, `lower`, `upper` and `strip`, the words of a text joined by single blanks, and
`Decimal` of a text, `none` where it raises. -/
structure PythonText where
  str : Json → Text
  lower : Text → Text
  upper : Text → Text
  strip : Text → Text
  words : Text → Text
  decimal : Text → Option Rat

namespace Json

def truthy : Json → Bool
  | .null => false
  | .bool value => value
  | .number value => value ≠ 0
  | .text value => !value.isEmpty
  | .list items => !items.isEmpty
  | .object fields => !fields.isEmpty

/-- `first or second` -/
def orElse (first second : Json) : Json := if first.truthy then first else second

end Json

def get (fields : Fields) (key : String) : Json :=
  ((fields.find? fun field => field.1 = key.toList).map Prod.snd).getD .null

def contains (part text : Text) : Bool := text.tails.any fun rest => part.isPrefixOf rest

def dropDots (text : Text) : Text := text.dropWhile (· = '.')

/-! The IANA table: `_IanaTableParser` and `parse_iana_root_db`, from the events of the HTML
parser. -/

inductive HtmlEvent where
  | start (tag : String)
  | data (text : Text)
  | stop (tag : String)

inductive IanaType where
  | generic | genericRestricted | sponsored | countryCode | infrastructure | test
  deriving DecidableEq

def IanaType.value : IanaType → String
  | .generic => "generic"
  | .genericRestricted => "generic-restricted"
  | .sponsored => "sponsored"
  | .countryCode => "country-code"
  | .infrastructure => "infrastructure"
  | .test => "test"

def ianaTypes : List IanaType :=
  [.generic, .genericRestricted, .sponsored, .countryCode, .infrastructure, .test]

def IanaType.ofText (text : Text) : Option IanaType :=
  ianaTypes.find? fun type => type.value.toList = text

abbrev IanaTable := List (Text × IanaType)

structure IanaParser where
  inCell : Bool := false
  cells : List Text := []
  cellParts : List Text := []
  types : IanaTable := []

namespace IanaParser

variable (python : PythonText)

def isCell (tag : String) : Bool := tag = "td" || tag = "th"

def finishRow (parser : IanaParser) : IanaParser :=
  match parser.cells with
  | name :: kind :: _ =>
    let tld := dropDots (python.lower (python.strip name))
    match IanaType.ofText (python.lower (python.strip kind)) with
    | some type =>
      if tld.isEmpty then { parser with cells := [] }
      else { parser with cells := [], types := (tld, type) :: parser.types }
    | none => { parser with cells := [] }
  | _ => { parser with cells := [] }

def handle (parser : IanaParser) : HtmlEvent → IanaParser
  | .start tag =>
    if isCell tag then { parser with inCell := true, cellParts := [] } else parser
  | .data text =>
    if parser.inCell then { parser with cellParts := parser.cellParts ++ [text] } else parser
  | .stop tag =>
    let closed := if isCell tag && parser.inCell then
        { parser with
          cells := parser.cells ++ [python.words parser.cellParts.flatten]
          inCell := false }
      else parser
    if tag = "tr" then closed.finishRow python else closed

end IanaParser

/-- `none` where it raises. -/
def parseIanaRootDb (python : PythonText) (html : List HtmlEvent) : Option IanaTable :=
  let parser := (html.foldl (IanaParser.handle python) {}).finishRow python
  if parser.types.isEmpty then none else some parser.types

def ianaType (table : IanaTable) (tld : Text) : Option IanaType :=
  (table.find? fun entry => entry.1 = tld).map Prod.snd

/-- `_tld_name` -/
def tldName (python : PythonText) (raw : Fields) : Option Text :=
  let value := (get raw "name").orElse ((get raw "extension").orElse (get raw "tld"))
  let named := match value with
    | .object fields => (get fields "name").orElse (get fields "extension")
    | other => other
  match named with
  | .text text =>
    let normalized := dropDots (python.lower (python.strip text))
    if normalized.isEmpty || normalized.contains '.' ||
        "xn--".toList.isPrefixOf normalized then none
    else if normalized.all fun character => character.toNat < 128 then some normalized
    else none
  | _ => none

abbrev Price := Rat × Text

def firstPrice (python : PythonText) : List (Json × Json) → Option Price
  | [] => none
  | (.null, _) :: rest => firstPrice python rest
  | (amount, currency) :: rest =>
    match python.decimal (python.str amount) with
    | none => firstPrice python rest
    | some value =>
      if 0 ≤ value then
        some (value, python.upper (python.str (currency.orElse (.text "USD".toList))))
      else firstPrice python rest

def pricePart (part : Json) : List (Json × Json) :=
  match part with
  | .object fields => [((get fields "price").orElse (get fields "amount"), get fields "currency")]
  | _ => []

/-- `_price_from_node` -/
def priceFromNode (python : PythonText) (node : Fields) : Option Price :=
  let price := match get node "price" with
    | .object fields => pricePart (.object fields)
    | other => [(other.orElse ((get node "amount").orElse (get node "price_amount")),
        (get node "currency").orElse (get node "price_currency"))]
  firstPrice python (pricePart (get node "reseller") ++ pricePart (get node "product") ++ price)

def operationText (python : PythonText) (node : Fields) : Text :=
  let part (key : String) : Text := python.str ((get node key).orElse (.text []))
  python.lower (part "operation" ++ [' '] ++ part "action" ++ [' '] ++ part "type" ++ [' '] ++
    part "name")

def newContext (python : PythonText) (context : Text) (node : Fields) : Text :=
  python.strip (context ++ [' '] ++ operationText python node)

def matchedPrice (python : PythonText) (operations : List Text) (context : Text)
    (node : Fields) : List Price :=
  if operations.any fun term => contains term context then
    (priceFromNode python node).toList
  else []

mutual

def walk (python : PythonText) (operations : List Text) (context : Text) : Json → List Price
  | .list items => walkItems python operations context items
  | .object fields =>
    let inner := newContext python context fields
    matchedPrice python operations inner fields ++
      walkFields python operations inner fields
  | _ => []

def walkItems (python : PythonText) (operations : List Text) (context : Text) :
    List Json → List Price
  | [] => []
  | item :: rest =>
    walk python operations context item ++ walkItems python operations context rest

def walkFields (python : PythonText) (operations : List Text) (context : Text) :
    List (Text × Json) → List Price
  | [] => []
  | (key, value) :: rest =>
    walk python operations (context ++ [' '] ++ python.lower key) value ++
      walkFields python operations context rest

end

def createOperations : List Text := ["create".toList, "register".toList, "registration".toList]

def renewOperations : List Text := ["renew".toList, "renewal".toList]

/-- `_operation_price`; the price of the top level counts for a creation. -/
def operationPrice (python : PythonText) (raw : Fields) (operations : List Text) :
    Option Price :=
  match walk python operations [] (.object raw) with
  | price :: _ => some price
  | [] =>
    if operations.contains "create".toList || operations.contains "register".toList then
      priceFromNode python raw
    else none

inductive IneligibleReason where
  | notAllowlisted
  | iana (type : Option IanaType)
  | providerInactive
  | flag (key : String)
  | notGeneralAvailability
  | priceUnavailable
  | invalidPrice

def IneligibleReason.code : IneligibleReason → String
  | .notAllowlisted => "not_allowlisted"
  | .iana type => "iana_" ++ (type.map IanaType.value).getD "unknown"
  | .providerInactive => "provider_inactive"
  | .flag key => key
  | .notGeneralAvailability => "not_general_availability"
  | .priceUnavailable => "price_unavailable"
  | .invalidPrice => "invalid_price"

def isTrue : Json → Bool
  | .bool value => value
  | _ => false

def isFalse : Json → Bool
  | .bool value => !value
  | _ => false

def unexpected (python : PythonText) (value : Json) (expected : List String) : Bool :=
  let text := python.lower (python.str (value.orElse (.text [])))
  !text.isEmpty && !expected.any fun word => word.toList = text

/-- `_ineligible_reason` -/
def ineligibleReason (python : PythonText) (tld : Text) (type : Option IanaType)
    (raw : Fields) (registration renewal : Option Rat) (currency : Option Text)
    (allowlist : List Text) : Option IneligibleReason :=
  if !allowlist.isEmpty && !allowlist.contains tld then some .notAllowlisted
  else if type ≠ some .generic then some (.iana type)
  else if unexpected python (get raw "status") ["act", "active", "available", "enabled", "ok"]
    then some .providerInactive
  else match ["is_restricted", "requires_additional_data"].find? fun key => isTrue (get raw key)
    with
  | some key => some (.flag key)
  | none =>
  match ["registration_allowed", "is_available", "is_active"].find? fun key =>
      isFalse (get raw key) with
  | some key => some (.flag key)
  | none =>
    if unexpected python (get raw "application_mode") ["ga", "general_availability"] then
      some .notGeneralAvailability
    else match registration, renewal, currency with
      | some created, some renewed, some (_ :: _) =>
        if created ≤ 0 ∨ renewed ≤ 0 then some .invalidPrice else none
      | _, _, _ => some .priceUnavailable

end HyruleCloud.TldCatalog

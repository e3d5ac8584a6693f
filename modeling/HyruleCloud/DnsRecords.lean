import HyruleCloud.Store
import HyruleCloud.UnitOfWork
import Mathlib.Data.List.DropRight

/-!
Names, RRsets and changes of a managed zone, domains/validation.py and
domains/models.py. What Python's `str` and the record parsers (`ipaddress`, dnspython)
do to a text is a parameter: the rules are the same whatever they do.
-/

namespace HyruleCloud.Zones

abbrev Text := List Char

local instance : LawfulBEq Text := inferInstance

inductive ManagedRecordType where
  | a | aaaa | cname | mx | txt | caa | srv | ns | tlsa | svcb | https
  deriving DecidableEq

structure TextRules where
  strip : Text → Text
  lower : Text → Text
  /-- The canonical text of one value, `none` where the parser raises. -/
  canonical : ManagedRecordType → Text → Text → Option Text

structure DNSRRSet where
  name : Text
  type : ManagedRecordType
  ttl : Nat := 3600
  values : List Text
  deriving DecidableEq

inductive DNSChangeAction where
  | upsert | delete
  deriving DecidableEq

structure DNSChange where
  action : DNSChangeAction
  rrset : DNSRRSet
  deriving DecidableEq

/-- `uq_domain_dns_rrset`, within one zone. -/
structure RecordKey where
  name : Text
  type : ManagedRecordType
  deriving DecidableEq

structure RecordData where
  ttl : Nat
  values : List Text
  deriving DecidableEq

/-- The RRsets of a zone: the rows of `domain_dns_records`, and what DNS control holds. -/
abbrev Zone := UnitOfWork.Rows RecordKey RecordData

abbrev RecordEdit := UnitOfWork.Edit RecordKey RecordData

def apex : Text := ['@']

def apexAaaa : RecordKey := ⟨apex, .aaaa⟩

def isAlnum (c : Char) : Bool := ('a' ≤ c && c ≤ 'z') || ('0' ≤ c && c ≤ '9')

/-- A label of at most 63 characters: hyphens, but not at its ends. -/
def matchesLabel (edge : Char → Bool) (label : Text) : Bool :=
  label.head?.any edge && label.getLast?.any edge &&
    label.all (fun c => edge c || c = '-') && decide (label.length ≤ 63)

/-- `_LABEL` -/
def isLabel : Text → Bool := matchesLabel isAlnum

/-- `_DNS_LABEL` -/
def isDnsLabel (label : Text) : Bool :=
  label = ['*'] || matchesLabel (fun c => isAlnum c || c = '_') label

def rstripDots (value : Text) : Text := value.rdropWhile (· = '.')

def orApex (name : Text) : Text := if name = [] then apex else name

/-- The third part of what `normalize_registrable_domain` returns. -/
def normalizeRegistrableDomain (rules : TextRules) (value : Text) : Except Err Text :=
  if value.any (fun c => decide (128 ≤ c.toNat)) then
    .error (.domainProblem 422 "idn_not_supported")
  else
    let fqdn := rstripDots (rules.lower (rules.strip value))
    if fqdn.length > 253 then .error (.domainProblem 422 "invalid_domain")
    else match fqdn.splitOn '.' with
      | [label, tld] =>
        if !isLabel label || !isLabel tld then .error (.domainProblem 422 "invalid_domain")
        else if ['x', 'n', '-', '-'].isPrefixOf label || ['x', 'n', '-', '-'].isPrefixOf tld then
          .error (.domainProblem 422 "idn_not_supported")
        else .ok fqdn
      | _ => .error (.domainProblem 422 "invalid_domain")

def normalizeRecordName (rules : TextRules) (name zone : Text) : Except Err Text :=
  let name := orApex (rstripDots (rules.lower (rules.strip name)))
  if name = zone then .ok apex
  else
    let suffix := '.' :: zone
    let name := if suffix.isSuffixOf name then orApex (name.take (name.length - suffix.length))
      else name
    let labels := name.splitOn '.'
    if name = apex then .ok name
    else if labels.any (fun label => !isDnsLabel label) then
      .error (.domainProblem 422 "invalid_dns_name")
    else if labels.tail.any (· = ['*']) then .error (.domainProblem 422 "invalid_dns_name")
    else .ok name

/-- One round of the loop of `validate_rrset`. -/
def validateValue (rules : TextRules) (type : ManagedRecordType) (zone : Text)
    (values : List Text) (raw : Text) : Except Err (List Text) :=
  let value := rules.strip raw
  if value = [] ∨ value.any (fun c => decide (c.toNat < 32) && c ≠ '\t') then
    .error (.domainProblem 422 "invalid_dns_value")
  else if value.length > 4096 then .error (.domainProblem 422 "invalid_dns_value")
  else match rules.canonical type zone value with
    | none => .error (.domainProblem 422 "invalid_dns_value")
    | some normalized => .ok (if normalized ∈ values then values else values ++ [normalized])

def validateRrset (rules : TextRules) (rrset : DNSRRSet) (zone : Text) : Except Err DNSRRSet :=
  match normalizeRecordName rules rrset.name zone with
  | .error error => .error error
  | .ok name =>
    if name = apex ∧ (rrset.type = .cname ∨ rrset.type = .ns) then
      .error (.domainProblem 422 "protected_apex_record")
    else match rrset.values.foldlM (validateValue rules rrset.type zone) [] with
      | .error error => .error error
      | .ok values => .ok { rrset with name := name, values := values }

def DNSRRSet.key (rrset : DNSRRSet) : RecordKey := ⟨rrset.name, rrset.type⟩

def DNSChangeAction.edit (action : DNSChangeAction) (rrset : DNSRRSet) : RecordEdit :=
  match action with
  | .upsert => .put rrset.key ⟨rrset.ttl, rrset.values⟩
  | .delete => .drop rrset.key

def editsOf (rules : TextRules) (zone : Text) : List DNSChange → Except Err (List RecordEdit)
  | [] => .ok []
  | change :: rest => match validateRrset rules change.rrset zone with
      | .error error => .error error
      | .ok rrset => match editsOf rules zone rest with
          | .error error => .error error
          | .ok edits => .ok (change.action.edit rrset :: edits)

end HyruleCloud.Zones

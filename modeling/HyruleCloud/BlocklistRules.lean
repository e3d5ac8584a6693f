import Mathlib.Data.List.Basic

/-!
The rules of a DNS blocklist source, services/dns/blocklists.py and services/dns/domain.py.
A text is a list of characters. What Python does to a text beyond that (`str.lower`, the
`idna` codec, `ipaddress`, the digits of `\d`) is a parameter.
-/

namespace HyruleCloud.Blocklists

abbrev Text := List Char

/-- `toAscii` is the IDNA encoding in lower case, `none` where it raises; `sameWord` compares as
`re.I` does. -/
structure PythonText where
  lower : Text → Text
  toAscii : Text → Option Text
  isAddress : Text → Bool
  isDigit : Char → Bool
  sameWord : Text → Text → Bool

/-- `str.isspace`, which `strip`, `split` and `\s` go by. -/
def isSpace (c : Char) : Bool :=
  (9 ≤ c.toNat && c.toNat ≤ 13) || (28 ≤ c.toNat && c.toNat ≤ 32) ||
    c.toNat ∈ [0x85, 0xa0, 0x1680, 0x2028, 0x2029, 0x202f, 0x205f, 0x3000] ||
    (0x2000 ≤ c.toNat && c.toNat ≤ 0x200a)

def stripWhere (drop : Char → Bool) (text : Text) : Text :=
  ((text.dropWhile drop).reverse.dropWhile drop).reverse

def strip (text : Text) : Text := stripWhere isSpace text

def rstrip (drop : Char → Bool) (text : Text) : Text := (text.reverse.dropWhile drop).reverse

/-- `str.split()` -/
def fields (text : Text) : List Text := (text.splitOnP isSpace).filter (· ≠ [])

/-! `normalize_domain` -/

def isLetterOrDigit (c : Char) : Bool := ('a' ≤ c && c ≤ 'z') || ('0' ≤ c && c ≤ '9')

/-- `_LABEL_RE` -/
def isLabel (label : Text) : Bool :=
  label.length ≤ 63 && label.all (fun c => isLetterOrDigit c || c = '-') &&
    label.head?.any isLetterOrDigit && label.getLast?.any isLetterOrDigit

def labels (domain : Text) : List Text := domain.splitOn '.'

/-- `none` where `normalize_domain` raises. -/
def normalizeDomain (python : PythonText) (value : Text) : Option Text :=
  let candidate := rstrip (· = '.') (strip value)
  if candidate = [] then none
  else if candidate.any (· ∈ ['/', '?', '#', '@']) then none
  else if python.isAddress (stripWhere (· ∈ ['[', ']']) candidate) then none
  else match python.toAscii candidate with
    | none => none
    | some normalized =>
      if (labels normalized).length < 2 || 253 < normalized.length ||
          !(labels normalized).all isLabel then none
      else some normalized

/-- `domain_suffixes` -/
def domainSuffixes (domain : Text) : List Text :=
  (List.range ((labels domain).length - 1)).map fun index =>
    ['.'].intercalate ((labels domain).drop index)

/-! `parse_rule_lines` -/

inductive MatchKind where
  | exact | wildcard | suffix
  deriving DecidableEq

inductive RuleAction where
  | block | allow
  deriving DecidableEq

structure ParsedRule where
  domain : Text
  matchKind : MatchKind
  action : RuleAction
  important : Bool
  deriving DecidableEq

/-- `_HOSTS_IPS` -/
def hostsIps : List Text :=
  ["0.0.0.0".toList, "127.0.0.1".toList, "::".toList, "::1".toList]

/-- `_LOCALHOST_NAMES` -/
def localhostNames : List Text := ["localhost".toList, "localhost.localdomain".toList]

def hostRules (python : PythonText) (value : Text) : List ParsedRule :=
  ((fields (value.takeWhile (· ≠ '#'))).drop 1).filterMap fun hostname =>
    if python.lower hostname ∈ localhostNames then none
    else (normalizeDomain python hostname).map fun domain => ⟨domain, .exact, .block, false⟩

/-- `_RPZ_RE` over the fields of the line; the group of the wildcard, and the owner name. -/
def rpzMatch (python : PythonText) (value : Text) : Option (Bool × Text) :=
  let isNumber (field : Text) := field ≠ [] && field.all python.isDigit
  let isIn (field : Text) := python.sameWord field "IN".toList
  let isCname (field : Text) := python.sameWord field "CNAME".toList
  let owner (field : Text) := match field with
    | '*' :: '.' :: first :: rest => (true, first :: rest)
    | _ => (false, field)
  match fields value with
  | [name, cname, ['.']] => if isCname cname then some (owner name) else none
  | [name, middle, cname, ['.']] =>
    if (isNumber middle || isIn middle) && isCname cname then some (owner name) else none
  | [name, ttl, class_, cname, ['.']] =>
    if isNumber ttl && isIn class_ && isCname cname then some (owner name) else none
  | _ => none

/-- `_ABP_RE`: the host, and the modifiers. -/
def adblockMatch (value : Text) : Option (Text × Text) :=
  match value with
  | '|' :: '|' :: rest =>
    let stops (c : Char) : Bool := c ∈ ['/', '^', '$', '|', '*']
    let host := rest.takeWhile fun c => !stops c
    match host, rest.dropWhile fun c => !stops c with
    | [], _ => none
    | _, ['^'] => some (host, [])
    | _, '^' :: '$' :: modifiers =>
      if modifiers = [] || modifiers.any isSpace then none else some (host, modifiers)
    | _, _ => none
  | _ => none

def importantName : Text := "important".toList

def adblockRules (python : PythonText) (action : RuleAction) (host modifiers : Text) :
    List ParsedRule :=
  let names := ((python.lower modifiers).splitOn ',').filter (· ≠ [])
  if names.any (· ≠ importantName) then []
  else (normalizeDomain python host).toList.map fun domain =>
    ⟨domain, .suffix, action, importantName ∈ names⟩

def contains (part text : Text) : Bool := text.tails.any (part.isPrefixOf ·)

def isBrowserSyntax (value : Text) : Bool := value.any (· ∈ ['/', '$', '|', '^', '*']) ||
  contains "##".toList value || contains "#@#".toList value

def domainRules (python : PythonText) (action : RuleAction) (value : Text) : List ParsedRule :=
  match value with
  | '*' :: '.' :: rest =>
    (normalizeDomain python rest).toList.map fun domain => ⟨domain, .wildcard, action, false⟩
  | _ =>
    if isBrowserSyntax value then []
    else (normalizeDomain python value).toList.map fun domain => ⟨domain, .exact, action, false⟩

def exceptionMark (value : Text) : RuleAction × Text :=
  match value with
  | '@' :: '@' :: rest => (.allow, rest)
  | _ => (.block, value)

def parseRuleLines (python : PythonText) (line : Text) : List ParsedRule :=
  let value := strip (line.dropWhile (· = '\uFEFF'))
  if value = [] || value.head?.any (· ∈ ['!', '#', '[']) then []
  else if (fields value).head?.any (· ∈ hostsIps) then hostRules python value
  else match rpzMatch python value with
    | some (wildcard, name) => (normalizeDomain python name).toList.map fun domain =>
      ⟨domain, if wildcard then .wildcard else .exact, .block, false⟩
    | none =>
      let (action, value) := exceptionMark value
      match adblockMatch value with
      | some (host, modifiers) => adblockRules python action host modifiers
      | none => domainRules python action value

/-- `iter_parsed_rules`, of the lines of a file. -/
def parsedRules (python : PythonText) (lines : List Text) : List ParsedRule :=
  lines.flatMap (parseRuleLines python)

/-! What is normalized, and what is parsed, has two labels. -/

section Labels

variable {python : PythonText} {value domain : Text} {rule : ParsedRule}

theorem normalizeDomain_labels (normalized : normalizeDomain python value = some domain) :
    2 ≤ (labels domain).length := by
  unfold normalizeDomain at normalized
  dsimp only at normalized
  split at normalized
  · cases normalized
  split at normalized
  · cases normalized
  split at normalized
  · cases normalized
  split at normalized
  · cases normalized
  split at normalized
  · cases normalized
  rename_i accepted
  cases normalized
  simp only [Bool.or_eq_true, decide_eq_true_eq, not_or, Nat.not_lt] at accepted
  exact accepted.1.1

theorem mapped_labels {make : Text → ParsedRule} (keeps : ∀ domain, (make domain).domain = domain)
    (listed : rule ∈ (normalizeDomain python value).toList.map make) :
    2 ≤ (labels rule.domain).length := by
  obtain ⟨domain, member, is⟩ := List.mem_map.mp listed
  rw [Option.mem_toList] at member
  rw [← is, keeps]
  exact normalizeDomain_labels member

theorem parseRuleLines_labels {line : Text} (listed : rule ∈ parseRuleLines python line) :
    2 ≤ (labels rule.domain).length := by
  unfold parseRuleLines at listed
  dsimp only at listed
  split at listed
  · cases listed
  split at listed
  · unfold hostRules at listed
    obtain ⟨hostname, _, is⟩ := List.mem_filterMap.mp listed
    split at is
    · cases is
    · obtain ⟨domain, normalized, made⟩ := Option.map_eq_some_iff.mp is
      rw [← made]
      exact normalizeDomain_labels normalized
  split at listed
  · exact mapped_labels (fun _ => rfl) listed
  split at listed
  · unfold adblockRules at listed
    dsimp only at listed
    split at listed
    · cases listed
    · exact mapped_labels (fun _ => rfl) listed
  · unfold domainRules at listed
    split at listed
    · exact mapped_labels (fun _ => rfl) listed
    · split at listed
      · cases listed
      · exact mapped_labels (fun _ => rfl) listed

theorem parsedRules_labels {lines : List Text} (listed : rule ∈ parsedRules python lines) :
    2 ≤ (labels rule.domain).length := by
  obtain ⟨line, _, parsed⟩ := List.mem_flatMap.mp listed
  exact parseRuleLines_labels parsed

end Labels

theorem labels_length (domain : Text) : (labels domain).length = domain.count '.' + 1 := by
  unfold labels
  induction domain with
  | nil => rfl
  | cons c rest ih =>
    rw [List.splitOn_cons_eq_if_modifyHead, List.count_cons]
    split
    · rw [List.length_cons, ih]
    · rw [List.length_modifyHead, ih]

theorem mem_domainSuffixes {before domain : Text} (two : 2 ≤ (labels domain).length) :
    domain ∈ domainSuffixes domain ∧ domain ∈ domainSuffixes (before ++ '.' :: domain) := by
  constructor
  · refine List.mem_map.mpr ⟨0, List.mem_range.mpr (by omega), ?_⟩
    exact List.intercalate_splitOn '.'
  · have split : labels (before ++ '.' :: domain) = labels before ++ labels domain :=
      List.splitOn_append_cons_self before domain
    refine List.mem_map.mpr ⟨(labels before).length, List.mem_range.mpr ?_, ?_⟩
    · rw [split, List.length_append]
      omega
    · rw [split, List.drop_left]
      exact List.intercalate_splitOn '.'

end HyruleCloud.Blocklists

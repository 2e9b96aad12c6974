import PolicyReplica.Http.Host
import PolicyReplica.Settings.Basic
import PolicyReplica.Settings.LogFilter

/-
The command line.

A switch stands alone; every other option has a value, as the next argument or
after an equals sign. A value does not start with a dash, except after an equals
sign. Lists are separated by commas and may be given several times; everything
else may be given once. The value of an option is looked at when the next option
comes, or at the end, so that a fault in it is found after one in how the option
itself is written.
-/

namespace PolicyReplica

inductive ArgumentFault where
  | missingRequired
  /-- A value is missing, or is not one of the possible ones. -/
  | invalidValue
  /-- A value cannot be read. -/
  | unreadableValue
  | unknownArgument
  /-- An option is given twice. -/
  | conflict
  /-- A switch is given a value. -/
  | superfluousValue
  /-- Reading a value breaks the program off. -/
  | breakdown
  deriving DecidableEq, Repr

namespace ArgumentFault

/-- The name of the kind of fault, if it is one that is reported. -/
def label? : ArgumentFault → Option String
  | .missingRequired => some "MissingRequiredArgument"
  | .invalidValue => some "InvalidValue"
  | .unreadableValue => some "ValueValidation"
  | .unknownArgument => some "UnknownArgument"
  | .conflict => some "ArgumentConflict"
  | .superfluousValue => some "TooManyValues"
  | .breakdown => none

end ArgumentFault

inductive ProgramOption where
  | apiUrl | auth | certificate | key | tokenPath | authHeader | disableKeepAlives
  | updateInterval | resyncInterval | queueInterval | adminDomain | systemNamespaces
  | excludedNamespaces | excludeGenerated | workers | retryLimit
  | cursorNamespace | cursorName | cursorKey
  /- Options of the log and of the cluster, which are checked and not kept. -/
  | logLevel | logFormat | cluster | kubeconfig | context | user | impersonated
  | impersonatedGroup | responseTimeout | adminAddress
  deriving DecidableEq, Repr

namespace ProgramOption

def named : List (String × ProgramOption) :=
  [("api-url", .apiUrl), ("auth", .auth), ("cert", .certificate), ("key", .key),
    ("token-path", .tokenPath), ("auth-header", .authHeader),
    ("disable-keep-alives", .disableKeepAlives), ("update-interval", .updateInterval),
    ("resync-interval", .resyncInterval), ("queue-delay-interval", .queueInterval),
    ("admin-domain", .adminDomain), ("system-namespaces", .systemNamespaces),
    ("exclude-namespaces", .excludedNamespaces), ("exclude-msd-rules", .excludeGenerated),
    ("workers", .workers), ("retry-limit", .retryLimit),
    ("cursor-configmap-namespace", .cursorNamespace), ("cursor-configmap-name", .cursorName),
    ("cursor-configmap-key", .cursorKey), ("log-level", .logLevel), ("log-format", .logFormat),
    ("cluster", .cluster), ("kubeconfig", .kubeconfig), ("context", .context), ("user", .user),
    ("as", .impersonated), ("as-group", .impersonatedGroup),
    ("kube-api-response-headers-timeout", .responseTimeout), ("admin-addr", .adminAddress)]

def ofName? (name : String) : Option ProgramOption :=
  (named.find? fun entry => entry.1 = name).map Prod.snd

def isSwitch (option : ProgramOption) : Bool :=
  option = .excludeGenerated

def isList (option : ProgramOption) : Bool :=
  option = .systemNamespaces || option = .excludedNamespaces

end ProgramOption

namespace CommandLine

/-! ### Values -/

def path (text : String) : Except ArgumentFault String :=
  if text = "" then .error .invalidValue else .ok text

def auth (text : String) : Except ArgumentFault Auth :=
  if text = "certificate" then .ok .certificate
  else if text = "token" then .ok .token
  else .error .invalidValue

def bool (text : String) : Except ArgumentFault Bool :=
  if text = "true" then .ok true
  else if text = "false" then .ok false
  else .error .invalidValue

def span (text : String) : Except ArgumentFault Span :=
  match Span.parse text with
  | .ok span => .ok span
  | .error _ => .error .unreadableValue

/-- A whole number of at most 64 bits; a plus sign may go before it. -/
def number (text : String) : Except ArgumentFault Nat :=
  let digits := match text.toList with
    | '+' :: rest => rest
    | other => other
  if digits ≠ [] ∧ digits.all Char.isDigit ∧ Text.digitsValue digits < Nat.pow 2 64 then
    .ok (Text.digitsValue digits)
  else .error .unreadableValue

def isHeaderChar (c : Char) : Bool :=
  c.isAlphanum || "!#$%&'*+-.^_\x60|~".toList.contains c

def header (text : String) : Except ArgumentFault String :=
  let name := text.toList
  if name ≠ [] ∧ name.all isHeaderChar ∧ name.length < Nat.pow 2 16 then
    .ok (String.ofList (name.map Char.toLower))
  else .error .unreadableValue

def items (text : String) : List String :=
  (text.toList.splitOn ',').map String.ofList

def isNumberBelow (bound : Nat) (digits : List Char) : Bool :=
  !digits.isEmpty && digits.all Char.isDigit && Text.digitsValue digits < bound

/-- Holds of an address of sixteen bytes, which may have the number of a zone after a
percent sign. -/
def isZonedAddress (text : List Char) : Bool :=
  Host.isAddress16 (text.takeWhile (· ≠ '%')) &&
    match text.dropWhile (· ≠ '%') with
    | [] => true
    | _ :: zone => isNumberBelow (Nat.pow 2 32) zone

def isSocketAddress (text : List Char) : Bool :=
  let isNumber := isNumberBelow (Nat.pow 2 16)
  match text with
  | '[' :: rest =>
      match rest.dropWhile (· ≠ ']') with
      | ']' :: ':' :: number => isZonedAddress (rest.takeWhile (· ≠ ']')) && isNumber number
      | _ => false
  | _ =>
      match text.dropWhile (· ≠ ':') with
      | ':' :: number => Host.isDotted (text.takeWhile (· ≠ ':')) && isNumber number
      | _ => false

/-- A timeout, which breaks the program off when it is too long or when a part of it
is negative. -/
def timeout (text : String) : Except ArgumentFault Span :=
  match Span.parseTimeout text with
  | .ok span => .ok span
  | .error .overflow => .error .breakdown
  | .error _ => .error .unreadableValue

/-- A log filter, which breaks the program off when it is misaligned. -/
def logFilter (text : String) : Except ArgumentFault Unit :=
  match LogFilter.check text with
  | .ok _ => .ok ()
  | .error .malformed => .error .unreadableValue
  | .error .misaligned => .error .breakdown

/-- The settings, if a value that is not kept is sound. -/
def checked (isSound : Bool) (settings : Settings) : Except ArgumentFault Settings :=
  if isSound then .ok settings else .error .unreadableValue

def assign (option : ProgramOption) (text : String) (settings : Settings) :
    Except ArgumentFault Settings :=
  match option with
  | .apiUrl => .ok { settings with apiUrl := text }
  | .auth => (auth text).map fun auth => { settings with auth }
  | .certificate => (path text).map fun certificate => { settings with certificate }
  | .key => (path text).map fun key => { settings with key }
  | .tokenPath => (path text).map fun tokenPath => { settings with tokenPath }
  | .authHeader => (header text).map fun authHeader => { settings with authHeader }
  | .disableKeepAlives =>
      (bool text).map fun disableKeepAlives => { settings with disableKeepAlives }
  | .updateInterval => (span text).map fun updateInterval => { settings with updateInterval }
  | .resyncInterval => (span text).map fun resyncInterval => { settings with resyncInterval }
  | .queueInterval => (span text).map fun queueInterval => { settings with queueInterval }
  | .adminDomain => .ok { settings with adminDomain := text }
  | .systemNamespaces =>
      .ok { settings with systemNamespaces := settings.systemNamespaces ++ items text }
  | .excludedNamespaces =>
      .ok { settings with excludedNamespaces := settings.excludedNamespaces ++ items text }
  | .excludeGenerated => .ok { settings with excludeGenerated := true }
  | .workers => (number text).map fun workers => { settings with workers }
  | .retryLimit => (number text).map fun retryLimit => { settings with retryLimit }
  | .cursorNamespace => .ok { settings with cursorNamespace := text }
  | .cursorName => .ok { settings with cursorName := text }
  | .cursorKey => .ok { settings with cursorKey := text }
  | .logLevel => (logFilter text).map fun _ => settings
  | .logFormat => checked (text = "plain" || text = "json") settings
  | .kubeconfig => (path text).map fun _ => settings
  | .responseTimeout => (timeout text).map fun _ => settings
  | .adminAddress => checked (isSocketAddress text.toList) settings
  | .cluster | .context | .user | .impersonated | .impersonatedGroup => .ok settings

/-! ### Arguments -/

structure Pending where
  option : ProgramOption
  value : Option String

structure Progress where
  settings : Settings
  /-- The options that were given. -/
  given : List ProgramOption
  pending : Option Pending
  /-- Whether two dashes have ended the options. -/
  ended : Bool

def start : Progress :=
  { settings := .standard, given := [], pending := none, ended := false }

def apply (option : ProgramOption) (value : String) (progress : Progress) :
    Except ArgumentFault Progress :=
  if progress.given.contains option && !option.isList then .error .conflict
  else (assign option value progress.settings).map fun settings =>
    { progress with settings, given := option :: progress.given }

def resolve (progress : Progress) : Except ArgumentFault Progress :=
  match progress.pending with
  | none => .ok progress
  | some pending =>
      match pending.value with
      | none => .error .invalidValue
      | some value => apply pending.option value { progress with pending := none }

def readOption (name : List Char) (attached : Option (List Char)) (progress : Progress) :
    Except ArgumentFault Progress :=
  match ProgramOption.ofName? (String.ofList name) with
  | none => .error .unknownArgument
  | some option =>
      match attached with
      | none => do
          let resolved ← resolve progress
          if option.isSwitch then apply option "" resolved
          else pure { resolved with pending := some { option, value := none } }
      | some value =>
          if option.isSwitch then .error .superfluousValue
          else do
            let resolved ← resolve progress
            apply option (String.ofList value) resolved

def readValue (argument : String) (progress : Progress) : Except ArgumentFault Progress :=
  match progress.pending with
  | some { option, value := none } =>
      .ok { progress with pending := some { option, value := some argument } }
  | _ => .error .unknownArgument

def read (progress : Progress) (argument : String) : Except ArgumentFault Progress :=
  if progress.ended then .error .unknownArgument
  else
    match argument.toList with
    | ['-', '-'] => .ok { progress with ended := true }
    | '-' :: '-' :: option =>
        let name := option.takeWhile (· ≠ '=')
        let attached := match option.dropWhile (· ≠ '=') with
          | [] => none
          | _ :: value => some value
        readOption name attached progress
    | '-' :: _ :: _ => .error .unknownArgument
    | _ => readValue argument progress

def parse (arguments : List String) : Except ArgumentFault Settings := do
  let progress ← arguments.foldlM read start
  let resolved ← resolve progress
  if resolved.given.contains .apiUrl then pure resolved.settings else .error .missingRequired

end CommandLine

end PolicyReplica

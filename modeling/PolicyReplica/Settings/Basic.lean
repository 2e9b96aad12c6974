import PolicyReplica.Text.Quoted
import PolicyReplica.Time.SpanText

/-
The settings of the program.
-/

namespace PolicyReplica

inductive Auth where
  | certificate
  | token
  deriving DecidableEq, Repr

structure Settings where
  /-- Base URL of the policy service. -/
  apiUrl : String
  auth : Auth
  /-- The file with the client certificate. -/
  certificate : String
  /-- The file with the private key. -/
  key : String
  /-- The file with the token. -/
  tokenPath : String
  /-- The header for the token, in lower case. -/
  authHeader : String
  disableKeepAlives : Bool
  /-- The time between two polls for changes. -/
  updateInterval : Span
  /-- The time between two syncs of everything. -/
  resyncInterval : Span
  /-- The time between two admissions to the queue. -/
  queueInterval : Span
  adminDomain : String
  /-- Namespaces whose domains are subdomains of the admin domain. -/
  systemNamespaces : List String
  /-- Namespaces that are never synced. -/
  excludedNamespaces : List String
  /-- Whether generated roles and policies are left out. -/
  excludeGenerated : Bool
  workers : Nat
  retryLimit : Nat
  /-- Where the cursor is recorded: the namespace and the name of the config map,
  and the key in it. -/
  cursorNamespace : String
  cursorName : String
  cursorKey : String
  deriving DecidableEq

namespace Settings

/-- What is set when nothing is said, except for the URL, which has no default. -/
def standard : Settings :=
  { apiUrl := ""
    auth := .certificate
    certificate := "/var/run/athenz/service.cert.pem"
    key := "/var/run/athenz/service.key.pem"
    tokenPath := "/var/run/athenz/token"
    authHeader := "athenz-principal-auth"
    disableKeepAlives := true
    updateInterval := .ofMilliseconds 60000
    resyncInterval := .ofMilliseconds 3600000
    queueInterval := .ofMilliseconds 250
    adminDomain := ""
    systemNamespaces := []
    excludedNamespaces := []
    excludeGenerated := false
    workers := 2
    retryLimit := 3
    cursorNamespace := "kube-yahoo"
    cursorName := "athenzcall-config"
    cursorKey := "latest_contact" }

def showAuth : Auth → String
  | .certificate => "Certificate"
  | .token => "Token"

def showSpan (span : Span) : String :=
  "GoDuration(" ++ span.render ++ ")"

/-- The settings by name, as they are shown in a log. -/
def entries (settings : Settings) : List (String × String) :=
  let text := Text.quote .plain
  let path := Text.quote .path
  let texts := Text.quoteAll .plain
  [("api_url", text settings.apiUrl),
    ("auth", showAuth settings.auth),
    ("cert", path settings.certificate),
    ("key", path settings.key),
    ("token_path", path settings.tokenPath),
    ("auth_header", text settings.authHeader),
    ("disable_keep_alives", toString settings.disableKeepAlives),
    ("update_interval", showSpan settings.updateInterval),
    ("resync_interval", showSpan settings.resyncInterval),
    ("queue_delay_interval", showSpan settings.queueInterval),
    ("admin_domain", text settings.adminDomain),
    ("system_namespaces", texts settings.systemNamespaces),
    ("exclude_namespaces", texts settings.excludedNamespaces),
    ("exclude_msd_rules", toString settings.excludeGenerated),
    ("workers", toString settings.workers),
    ("retry_limit", toString settings.retryLimit),
    ("cursor_configmap_namespace", text settings.cursorNamespace),
    ("cursor_configmap_name", text settings.cursorName),
    ("cursor_configmap_key", text settings.cursorKey)]

end Settings

end PolicyReplica

/-
Task capability authority (`capability_authority.py`): the deny-by-default
envelope of a task, the decision on one request, and the derivation of a
child authority that may only narrow its parent's.
-/
import ThreeAgent.Errors
import ThreeAgent.Lib.IpAddress
import ThreeAgent.Lib.Json
import ThreeAgent.Lib.Sha256

namespace ThreeAgent

open PyText Outcome

/-! ## Vocabulary -/

/-- `OFFICE_IT_NETWORK_TOOLS`. -/
def officeItNetworkTools : List String :=
  ["network.ssh.probe", "network.rtsp.probe", "network.smb.probe", "network.printer.ipp_probe",
   "network.printer.raw_probe"]

/-- `DIAGNOSTIC_LOCAL_READ_TOOLS`. -/
def diagnosticLocalReadTools : List String :=
  ["system.platform.identify", "system.resource.snapshot", "system.storage.capacity",
   "network.interface.snapshot", "network.ipconfig.snapshot", "network.route.snapshot",
   "network.dns.snapshot", "time.sync.status", "service.status.read", "windows.group_policy.result",
   "identity.session.snapshot", "audio.devices.snapshot", "meeting.client.snapshot",
   "process.top.snapshot", "hardware.usb.snapshot", "hardware.display.snapshot",
   "hardware.dock.snapshot", "driver.inventory.snapshot", "camera.devices.snapshot",
   "storage.io.snapshot", "windows.print.driver.snapshot", "windows.boot.snapshot",
   "windows.update.history", "vpn.status.snapshot"]

/-- `DIAGNOSTIC_STAGED_LOCAL_READ_TOOLS`. -/
def diagnosticStagedLocalReadTools : List String :=
  ["backup.local_state.snapshot", "cloud_files.client_state.snapshot",
   "identity.account_state.snapshot", "mail_exchange.client_state.snapshot", "voip.client_state.snapshot"]

/-- `DIAGNOSTIC_INTERNAL_NETWORK_TOOLS`. -/
def diagnosticInternalNetworkTools : List String :=
  ["network.reachability.internal", "network.quality.internal"]

/-- `INTERNAL_NETWORK_TOOLS`. -/
def internalNetworkTools : List String := officeItNetworkTools ++ diagnosticInternalNetworkTools

/-- `TOOLS`. -/
def tools : List String :=
  ["read_file", "search_repo", "search_docs", "write_staging", "apply_patch", "run_linter",
   "run_tests", "query_db_readonly", "calculator", "web_gateway", "windows.event.system",
   "windows.event.application", "windows.event.security", "windows.printer.queue"] ++
  officeItNetworkTools ++ diagnosticLocalReadTools ++ diagnosticStagedLocalReadTools ++
  diagnosticInternalNetworkTools

/-- `_EFFECTS`: the one effect each tool may have. -/
def effects : List (String × String) :=
  [("read_file", "read"), ("search_repo", "read"), ("search_docs", "read"),
   ("query_db_readonly", "read"), ("calculator", "compute"), ("run_linter", "execute"),
   ("run_tests", "execute"), ("write_staging", "write"), ("apply_patch", "write"),
   ("web_gateway", "network_read"), ("windows.event.system", "read"),
   ("windows.event.application", "read"), ("windows.event.security", "read"),
   ("windows.printer.queue", "read")] ++
  officeItNetworkTools.map (·, "network_read") ++ diagnosticLocalReadTools.map (·, "read") ++
  diagnosticInternalNetworkTools.map (·, "network_read") ++
  diagnosticStagedLocalReadTools.map (·, "read")

/-- `_NETWORK_SCOPES`. -/
def networkScopes : List String := ["deny", "internal_only", "allowlisted_egress"]

/-- `_WAVE1_INVOCABLE_LOCAL_READ_TOOLS`. -/
def wave1InvocableLocalReadTools : List String :=
  ["backup.local_state.snapshot", "cloud_files.client_state.snapshot",
   "identity.account_state.snapshot", "mail_exchange.client_state.snapshot", "voip.client_state.snapshot"]

/-- `_EXACT_RESOURCE_POLICIES`: the one kind and reference a tool may touch. -/
def exactResourcePolicies : List (String × String × String) :=
  [("windows.event.system", "event_channel", "windows:event:System"),
   ("windows.event.application", "event_channel", "windows:event:Application"),
   ("windows.event.security", "event_channel", "windows:event:Security"),
   ("windows.printer.queue", "print_queue", "windows:printer:queue"),
   ("system.platform.identify", "system_inventory", "local:platform"),
   ("system.resource.snapshot", "performance_snapshot", "local:resources"),
   ("system.storage.capacity", "filesystem_capacity", "local:storage:default"),
   ("network.interface.snapshot", "network_config", "local:interfaces"),
   ("network.ipconfig.snapshot", "network_config", "local:ipconfig"),
   ("network.route.snapshot", "network_config", "local:routes"),
   ("network.dns.snapshot", "network_config", "local:dns"),
   ("time.sync.status", "time_config", "local:time-sync"),
   ("identity.session.snapshot", "identity_session", "local:identity:current"),
   ("audio.devices.snapshot", "audio_devices", "local:audio:devices"),
   ("meeting.client.snapshot", "meeting_clients", "local:meeting:clients"),
   ("process.top.snapshot", "process_inventory", "local:processes:top"),
   ("hardware.usb.snapshot", "usb_devices", "local:usb:devices"),
   ("hardware.display.snapshot", "display_devices", "local:display:devices"),
   ("hardware.dock.snapshot", "dock_devices", "local:dock:devices"),
   ("driver.inventory.snapshot", "driver_inventory", "local:driver:inventory"),
   ("camera.devices.snapshot", "camera_devices", "local:camera:devices"),
   ("storage.io.snapshot", "storage_io", "local:storage:io"),
   ("windows.print.driver.snapshot", "printer_drivers", "local:printer:drivers"),
   ("windows.boot.snapshot", "boot_state", "local:windows:boot"),
   ("windows.update.history", "windows_update_history", "local:windows:update-history"),
   ("vpn.status.snapshot", "vpn_status", "local:vpn:status"),
   ("cloud_files.client_state.snapshot", "cloud_files_client_state", "local:cloud-files:client-state"),
   ("mail_exchange.client_state.snapshot", "mail_exchange_client_state",
    "local:mail-exchange:client-state"),
   ("voip.client_state.snapshot", "voip_client_state", "local:voip:client-state"),
   ("identity.account_state.snapshot", "identity_account_state", "local:identity:account-state"),
   ("backup.local_state.snapshot", "backup_local_state", "local:backup:state")]

/-- `_GROUP_POLICY_REFS`. -/
def groupPolicyRefs : List String :=
  ["local:gpresult:user", "local:gpresult:computer", "local:gpresult:all"]

/-- `_NETWORK_RESOURCE_SUFFIXES`. -/
def networkResourceSuffixes : List (String × String) :=
  [("network.ssh.probe", ":22"), ("network.rtsp.probe", ":554"), ("network.smb.probe", ":445"),
   ("network.printer.ipp_probe", ":631"), ("network.printer.raw_probe", ":9100"),
   ("network.reachability.internal", ":icmp"), ("network.quality.internal", ":icmp-quality")]

/-! ## Identifiers and paths -/

/-- The characters of `_COMPACT_RE` after the first. -/
def isCompactChar (c : Char) : Bool :=
  isAsciiAlnum c || c ∈ ['.', '_', ':', '/', '@', '+', '-', '=']

/-- `_COMPACT_RE.fullmatch`. -/
def compactRe (cs : List Char) : Bool :=
  match cs with
  | [] => false
  | c :: rest => isAsciiAlnum c && rest.all isCompactChar && decide (rest.length ≤ 255)

/-- `_SERVICE_RESOURCE_RE.fullmatch`. -/
def serviceResourceRe (s : String) : Bool :=
  let name := s.toList.drop "local:service:".length
  startsWith s "local:service:" && decide (1 ≤ name.length) && decide (name.length ≤ 128) &&
    name.all fun c => isAsciiAlnum c || c ∈ ['_', '.', '@', '-']

/-- `_compact`. -/
def compact (value field : String) (maxLen : Nat) : Except Raised String := do
  let text := strip value
  require (text ≠ "" ∧ text.toList.length ≤ maxLen ∧ compactRe text.toList = true)
    ⟨.valueError, field ++ " must be a compact identifier"⟩
  require (contains text "://" = false) ⟨.valueError, field ++ " must not contain a raw URL"⟩
  return text

/-- `PurePosixPath`: the root of an absolute path, and the parts after it. -/
structure PurePosixPath where
  root : String
  tail : List String

namespace PurePosixPath

/-- `PurePosixPath(text)`: empty and `.` segments are dropped; exactly two leading slashes are kept
apart from one. -/
def parse (text : String) : PurePosixPath where
  root :=
    if startsWith text "//" && !startsWith text "///" then "//"
    else if startsWith text "/" then "/" else ""
  tail := (split '/' text).filter fun part => part ≠ "" ∧ part ≠ "."

def isAbsolute (p : PurePosixPath) : Bool := p.root != ""

/-- `path.parts`. -/
def parts (p : PurePosixPath) : List String := if p.root = "" then p.tail else p.root :: p.tail

/-- `path.as_posix()`. -/
def asPosix (p : PurePosixPath) : String :=
  if p.root = "" ∧ p.tail = [] then "." else p.root ++ join '/' p.tail

end PurePosixPath

/-- `_safe_path`. -/
def safePath (value field : String) : Except Raised String := do
  let text ← compact value field 256
  let path := PurePosixPath.parse (replaceChar '\\' '/' text)
  require (path.isAbsolute = false ∧ ".." ∉ path.parts)
    ⟨.valueError, field ++ " must be a safe relative path"⟩
  let normalized := stripChar '/' path.asPosix
  require (normalized ≠ "" ∧ normalized ≠ ".") ⟨.valueError, field ++ " must identify a bounded path"⟩
  return normalized

/-- A write scope, `str | tuple[str, ...]`: one path or `"none"`, or several paths. -/
inductive WriteScope where
  | text (s : String)
  | paths (ps : List String)
  deriving DecidableEq, Repr

namespace WriteScope

def none : WriteScope := .text "none"

/-- `scope if isinstance(scope, tuple) else (scope,)`. -/
def entries : WriteScope → List String
  | .text s => [s]
  | .paths ps => ps

def toJson : WriteScope → PyJson.Json Unit
  | .text s => .str s
  | .paths ps => PyJson.Json.strs ps

end WriteScope

/-- `_normalize_write_scope`. -/
def normalizeWriteScope (value : WriteScope) (field : String) : Except Raised WriteScope :=
  match value with
  | .text s =>
    if s = "none" then return .text "none"
    else do
      let p ← safePath s field
      return .text p
  | .paths ps => do
    require (ps ≠ []) ⟨.valueError, field ++ " must not be empty; use 'none' to deny writes"⟩
    let normalized ← ps.mapM (safePath · field)
    return .paths (dedup normalized)

/-- `scope == parent or scope.startswith(parent + "/")`. -/
def isWithin (scope parent : String) : Bool := scope == parent || startsWith scope (parent ++ "/")

/-- `_write_scope_is_subset`. -/
def writeScopeIsSubset (child parent : WriteScope) : Bool :=
  if child = .none then true
  else if parent = .none then false
  else child.entries.all fun scope => parent.entries.any fun parentScope => isWithin scope parentScope

/-! ## Resource policy -/

/-- `_is_internal_ip_literal`. -/
def isInternalIpLiteral (value : String) : Bool :=
  match IpAddress.ipAddress (strip value) with
  | none => false
  | some address =>
    if IpAddress.isLoopback address || IpAddress.isLinkLocal address then true
    else
      match address with
      | .v4 ip =>
        IpAddress.inNetwork 32 ip 0x0A000000 8 || IpAddress.inNetwork 32 ip 0xAC100000 12 ||
          IpAddress.inNetwork 32 ip 0xC0A80000 16
      | .v6 ip => IpAddress.inNetwork 128 ip (0xFC00 * 2 ^ 112) 7

/-- `_resource_policy_denial`: the reason a capability may not touch a resource. -/
def resourcePolicyDenial (capability resourceKind resourceRef : String) : Option String :=
  match exactResourcePolicies.lookup capability with
  | some (expectedKind, expectedRef) =>
    if resourceKind ≠ expectedKind then some "RESOURCE_KIND_NOT_AUTHORIZED"
    else if resourceRef ≠ expectedRef then some "RESOURCE_REF_NOT_AUTHORIZED"
    else none
  | none =>
    if capability = "service.status.read" then
      if resourceKind ≠ "service" then some "RESOURCE_KIND_NOT_AUTHORIZED"
      else if serviceResourceRe resourceRef = false then some "RESOURCE_REF_NOT_AUTHORIZED"
      else none
    else if capability = "windows.group_policy.result" then
      if resourceKind ≠ "group_policy" then some "RESOURCE_KIND_NOT_AUTHORIZED"
      else if resourceRef ∉ groupPolicyRefs then some "RESOURCE_REF_NOT_AUTHORIZED"
      else none
    else
      match networkResourceSuffixes.lookup capability with
      | some suffix =>
        if resourceKind ≠ "network_endpoint" then some "RESOURCE_KIND_NOT_AUTHORIZED"
        else if endsWith resourceRef suffix = false then some "RESOURCE_REF_NOT_AUTHORIZED"
        else
          let host := String.ofList
            (resourceRef.toList.take (resourceRef.toList.length - suffix.toList.length))
          if host = "" ∨ isInternalIpLiteral host = false then some "RESOURCE_REF_NOT_AUTHORIZED"
          else none
      | none => none

/-! ## The authority -/

structure TaskCapabilityAuthority where
  taskId : String
  sensitivity : String
  allowedSources : List String
  allowedTools : List String
  writeScope : WriteScope
  networkScope : String
  fingerprint : String
  deriving DecidableEq, Repr

/-- `CapabilityDecision`. -/
structure CapabilityDecision where
  taskId : String
  capability : String
  resourceKind : String
  resourceRef : String
  effect : String
  allowed : Bool
  reasonCode : String
  authorityFingerprint : String
  deriving DecidableEq, Repr

/-- `_fingerprint_payload`. -/
def fingerprintPayload (taskId sensitivity : String) (allowedSources allowedTools : List String)
    (writeScope : WriteScope) (networkScope : String) : String :=
  let payload : PyJson.Json Unit := PyJson.Json.dict
    [("task_id", .str taskId), ("sensitivity", .str sensitivity),
     ("allowed_sources", PyJson.Json.strs allowedSources), ("allowed_tools", PyJson.Json.strs allowedTools),
     ("write_scope", writeScope.toJson), ("network_scope", .str networkScope)]
  "sha256:" ++ Sha256.hexdigest (String.ofList (PyJson.text payload))

namespace TaskCapabilityAuthority

/-- `_build`. -/
def build (taskId sensitivity : String) (allowedSources allowedTools : List String)
    (writeScope : WriteScope) (networkScope : String) : TaskCapabilityAuthority :=
  { taskId, sensitivity, allowedSources, allowedTools, writeScope, networkScope
    fingerprint :=
      fingerprintPayload taskId sensitivity allowedSources allowedTools writeScope networkScope }

/-- The arguments of `derive_child`. -/
structure ChildRequest where
  taskId : String
  allowedSources : Option (List String) := none
  allowedTools : Option (List String) := none
  writeScope : Option WriteScope := none
  networkScope : Option String := none

/-- The child's share of a list of names: the parent's own, or the requested ones, each compact and
all of them the parent's. -/
def deriveNames (own : List String) (requested : Option (List String)) (field : String) (maxLen : Nat)
    (denied : String) : Except Raised (List String) :=
  match requested with
  | none => return own
  | some names => do
    let names ← names.mapM (compact · field maxLen)
    require (∀ name ∈ dedup names, name ∈ own) ⟨.capabilityAuthorityDenied, denied⟩
    return dedup names

/-- The child's network scope: the parent's own, or the requested one. -/
def deriveNetworkScope (own : String) (requested : Option String) : Except Raised String :=
  match requested with
  | none => return own
  | some scope => compact scope "child_network_scope" 64

/-- `derive_child`. -/
def deriveChild (self : TaskCapabilityAuthority) (req : ChildRequest) :
    Except Raised TaskCapabilityAuthority := do
  let childTaskId ← compact req.taskId "child_task_id" 128
  let childSources ← deriveNames self.allowedSources req.allowedSources "child_allowed_source" 128
    "CHILD_SOURCE_SCOPE_ESCALATION"
  let childTools ← deriveNames self.allowedTools req.allowedTools "child_allowed_tool" 64
    "CHILD_CAPABILITY_ESCALATION"
  let parentWriteScope ← normalizeWriteScope self.writeScope "parent_write_scope"
  let childWriteScope ← normalizeWriteScope (req.writeScope.getD self.writeScope) "child_write_scope"
  require (writeScopeIsSubset childWriteScope parentWriteScope = true)
    ⟨.capabilityAuthorityDenied, "CHILD_WRITE_SCOPE_ESCALATION"⟩
  let childNetworkScope ← deriveNetworkScope self.networkScope req.networkScope
  require (childNetworkScope ∈ networkScopes)
    ⟨.valueError, "unsupported child_network_scope: " ++ childNetworkScope⟩
  require (childNetworkScope = self.networkScope ∨ childNetworkScope = "deny")
    ⟨.capabilityAuthorityDenied, "CHILD_NETWORK_SCOPE_ESCALATION"⟩
  return build childTaskId self.sensitivity childSources childTools childWriteScope childNetworkScope

/-- `_decision`. -/
def decision (self : TaskCapabilityAuthority) (capability resourceKind resourceRef effect : String)
    (allowed : Bool) (reasonCode : String) : CapabilityDecision :=
  { taskId := self.taskId, capability, resourceKind, resourceRef, effect, allowed, reasonCode
    authorityFingerprint := self.fingerprint }

/-- `_write_allowed`. -/
def writeAllowed (self : TaskCapabilityAuthority) (resourceRef : String) : Bool :=
  if self.writeScope = .none then false
  else
    match safePath resourceRef "resource_ref" with
    | .error _ => false
    | .ok resource =>
      self.writeScope.entries.any fun rawScope =>
        match safePath rawScope "write_scope" with
        | .error _ => false
        | .ok scope => isWithin resource scope

/-- The reason the network scope denies a request, as `authorize` looks for it. -/
def networkDenial (self : TaskCapabilityAuthority) (cap kind eff : String) : Option String :=
  if cap = "web_gateway" then
    if self.sensitivity ≠ "public" ∨ self.networkScope ≠ "allowlisted_egress" then
      some "NETWORK_SCOPE_NOT_AUTHORIZED"
    else none
  else if cap ∈ internalNetworkTools then
    if self.networkScope ≠ "internal_only" then some "NETWORK_SCOPE_NOT_AUTHORIZED"
    else if kind ≠ "network_endpoint" then some "RESOURCE_KIND_NOT_AUTHORIZED"
    else none
  else if startsWith eff "network" then some "NETWORK_CAPABILITY_NOT_AUTHORIZED"
  else none

/-- The reason a request is denied, in the order `authorize` looks for one. -/
def denial (self : TaskCapabilityAuthority) (cap kind ref eff : String) : Option String :=
  if cap ∉ tools then some "CAPABILITY_UNKNOWN"
  else if cap ∉ self.allowedTools then some "CAPABILITY_NOT_ALLOWED"
  else if cap ∈ diagnosticStagedLocalReadTools ∧ cap ∉ wave1InvocableLocalReadTools then
    some "CAPABILITY_NOT_INVOCABLE"
  else if effects.lookup cap ≠ some eff then some "CAPABILITY_EFFECT_NOT_ALLOWED"
  else
    match resourcePolicyDenial cap kind ref with
    | some reason => some reason
    | none =>
      match self.networkDenial cap kind eff with
      | some reason => some reason
      | none =>
        if eff = "write" ∧ self.writeAllowed ref = false then some "WRITE_SCOPE_NOT_AUTHORIZED"
        else none

/-- `authorize`. -/
def authorize (self : TaskCapabilityAuthority) (capability resourceKind resourceRef effect : String) :
    Except Raised CapabilityDecision := do
  let cap ← compact capability "capability" 64
  let kind ← compact resourceKind "resource_kind" 64
  let ref ← compact resourceRef "resource_ref" 256
  let eff ← compact effect "effect" 64
  match self.denial cap kind ref eff with
  | some reason => return self.decision cap kind ref eff false reason
  | none => return self.decision cap kind ref eff true "CAPABILITY_AUTHORIZED"

/-- `require`. -/
def requireCapability (self : TaskCapabilityAuthority) (capability resourceKind resourceRef effect : String) :
    Except Raised CapabilityDecision := do
  let d ← self.authorize capability resourceKind resourceRef effect
  require (d.allowed = true) ⟨.capabilityAuthorityDenied, d.reasonCode⟩
  return d

end TaskCapabilityAuthority

end ThreeAgent

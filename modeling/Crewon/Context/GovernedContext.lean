import Crewon.Context.NormalizeContextHistory
import Crewon.Js.StableJson

/-!
# Governed context

What enters the context of a model from elsewhere is framed: a fragment stands between fixed tags,
with a line of metadata in front of its content. The content is escaped and cut to the cap of the
fragment; the items of a bundle together stay within a limit.
-/

namespace Crewon.Context

open Crewon.Js Crewon.Checked Crewon.Domain

/-- The largest cap of a fragment. -/
def maxFragmentTokens : Nat := 10000

/-- The largest number of fragments of a bundle. -/
def maxFragments : Nat := 64

/-- The largest number of bytes of a bundle. -/
def maxBundleBytes : Nat := 512 * 1024

/-- Whom a fragment is for. -/
inductive GovernedContextScopeKind where
  | single
  | experts
  | officeShared
deriving DecidableEq

/-- The audience of a bundle. -/
structure GovernedContextAudience where
  bindingId : JsString
  scopeKind : GovernedContextScopeKind
  scopeId : JsString
deriving DecidableEq

/-- Where a fragment comes from. -/
inductive GovernedContextSourceKind where
  | application
  | provider
  | user
  | memory
  | resource
  | tool
  | web
deriving DecidableEq

/-- The source of a fragment. -/
structure GovernedContextProvenance where
  sourceKind : GovernedContextSourceKind
  sourceId : JsString
  actorId : JsString
deriving DecidableEq

/-- How far a fragment is trusted. -/
inductive GovernedContextTrust where
  | trustedApplication
  | untrustedData
deriving DecidableEq

/-- Who may see a fragment. -/
inductive GovernedContextSensitivity where
  | publicData
  | workspaceSensitive
  | secret
deriving DecidableEq

/-- What a fragment is used for. -/
inductive GovernedContextPurpose where
  | taskInput
  | reference
  | memory
  | toolResult
deriving DecidableEq

/-- When a fragment was observed, and until when it holds. -/
structure GovernedContextFreshness where
  observedAt : JsString
  expiresAt : Option JsString
deriving DecidableEq

/-- A fragment. -/
structure GovernedContextFragmentSpec where
  fragmentId : JsString
  audience : GovernedContextAudience
  provenance : GovernedContextProvenance
  trust : GovernedContextTrust
  sensitivity : GovernedContextSensitivity
  purpose : GovernedContextPurpose
  tokenCap : Int
  freshness : GovernedContextFreshness
  content : JsString
deriving DecidableEq

/-- The name of a scope. -/
def GovernedContextScopeKind.name : GovernedContextScopeKind → String
  | .single => "single"
  | .experts => "experts"
  | .officeShared => "officeShared"

/-- The name of a kind of source. -/
def GovernedContextSourceKind.name : GovernedContextSourceKind → String
  | .application => "application"
  | .provider => "provider"
  | .user => "user"
  | .memory => "memory"
  | .resource => "resource"
  | .tool => "tool"
  | .web => "web"

/-- The name of a trust. -/
def GovernedContextTrust.name : GovernedContextTrust → String
  | .trustedApplication => "trustedApplication"
  | .untrustedData => "untrustedData"

/-- The name of a sensitivity. -/
def GovernedContextSensitivity.name : GovernedContextSensitivity → String
  | .publicData => "public"
  | .workspaceSensitive => "workspaceSensitive"
  | .secret => "secret"

/-- The name of a purpose. -/
def GovernedContextPurpose.name : GovernedContextPurpose → String
  | .taskInput => "taskInput"
  | .reference => "reference"
  | .memory => "memory"
  | .toolResult => "toolResult"

/-- A rejection of the governed context. -/
def governedContextError (code : String) : Failure := ⟨.governedContext, code⟩

/-- Reject a text that is empty or longer than the bound in UTF-8. -/
def requireBounded (value : JsString) (maxBytes : Nat) (code : String) : Checked Unit :=
  rejectIf (value.length = 0 ∨ value.fitsBytes maxBytes = false) (governedContextError code)

/-- Reject a text that is no timestamp with seconds or milliseconds. -/
def requireGovernedTimestamp (value : JsString) (code : String) : Checked Unit :=
  rejectIf (isTimestamp value = false ∨ (value.length ≠ 20 ∧ value.length ≠ 24))
    (governedContextError code)

/-- A text that is a digest. -/
def requireGovernedDigest (value : JsString) (code : String) : Checked JsString := do
  rejectIf (isDigest value = false) (governedContextError code)
  return value

/-- The checks of an audience. -/
def validateAudience (audience : GovernedContextAudience) : Checked Unit := do
  requireBounded audience.bindingId 512 "governed_context_binding_id_invalid"
  requireBounded audience.scopeId 512 "governed_context_scope_id_invalid"

/-- The checks of a fragment of a bundle, behind fragments with the given ids. -/
def validateFragmentSpec (spec : GovernedContextFragmentSpec) (audience : GovernedContextAudience)
    (fragmentIds : List JsString) : Checked Unit := do
  requireBounded spec.fragmentId 256 "governed_context_fragment_id_invalid"
  rejectIf (spec.fragmentId ∈ fragmentIds)
    (governedContextError "governed_context_fragment_duplicate")
  validateAudience spec.audience
  rejectIf (spec.audience ≠ audience) (governedContextError "governed_context_audience_mismatch")
  requireBounded spec.provenance.sourceId 512 "governed_context_source_id_invalid"
  requireBounded spec.provenance.actorId 256 "governed_context_actor_id_invalid"
  rejectIf (spec.trust = .trustedApplication ∧ spec.provenance.sourceKind ≠ .application)
    (governedContextError "governed_context_trust_source_invalid")
  rejectIf (spec.sensitivity = .secret)
    (governedContextError "governed_context_secret_not_model_visible")
  rejectIf (isSafeInteger spec.tokenCap = false ∨ spec.tokenCap < 1 ∨
      maxFragmentTokens < spec.tokenCap)
    (governedContextError "governed_context_token_cap_invalid")
  requireGovernedTimestamp spec.freshness.observedAt "governed_context_observed_at_invalid"
  whenPresent spec.freshness.expiresAt fun expiresAt => do
    requireGovernedTimestamp expiresAt "governed_context_expires_at_invalid"
    rejectIf (isEarlier spec.freshness.observedAt expiresAt = false)
      (governedContextError "governed_context_freshness_invalid")
  requireBounded spec.content (maxFragmentTokens * 16) "governed_context_content_invalid"

/-- A unit as it is written inside a frame. -/
def escapeXmlUnit (point : UInt16) : List UInt16 :=
  if point = unit '&' then (js "&amp;").units
  else if point = unit '<' then (js "&lt;").units
  else if point = unit '>' then (js "&gt;").units
  else [point]

/-- A text as it is written inside a frame. -/
def escapeXml (value : JsString) : JsString := ⟨value.units.flatMap escapeXmlUnit⟩

/-- The characters of a list of units; a lone surrogate stands for itself. -/
def charactersOf : List UInt16 → List (List UInt16)
  | [] => []
  | [single] => [[single]]
  | first :: second :: rest =>
    if JsString.isHigh first && JsString.isLow second then [first, second] :: charactersOf rest
    else [first] :: charactersOf (second :: rest)

/-- The characters of a text, as iteration over it yields them. -/
def characters (value : JsString) : List JsString := (charactersOf value.units).map JsString.mk

/-- A part of a content, as it is and as it is written. -/
structure EscapedContent where
  content : JsString
  escaped : JsString
deriving DecidableEq

/-- Take characters as long as what is written of them fits. -/
def takeCharacters (maxBytes : Int) : Nat → EscapedContent → List JsString → EscapedContent
  | _, taken, [] => taken
  | bytes, taken, character :: rest =>
    let projected := escapeXml character
    if maxBytes < (bytes + projected.byteLength : Nat) then taken
    else takeCharacters maxBytes (bytes + projected.byteLength)
      ⟨taken.content ++ character, taken.escaped ++ projected⟩ rest

/-- The part of a content that fits when it is written. -/
def projectEscapedContent (value : JsString) (maxBytes : Int) : EscapedContent :=
  takeCharacters maxBytes 0 ⟨.empty, .empty⟩ (characters value)

/-- The tokens of a text, at most: one for each byte. -/
def estimateTokens (value : JsString) : Int := max 1 (value.byteLength : Int)

/-- The metadata of a fragment. -/
def fragmentMetadata (spec : GovernedContextFragmentSpec) (projection : EscapedContent)
    (contentDigest sourceDigest : JsString) : JsonValue :=
  .object [
    ("schemaVersion", .string (js "crewon.governed-context-fragment.v0")),
    ("fragmentId", .string spec.fragmentId),
    ("audience", .object [
      ("bindingId", .string spec.audience.bindingId),
      ("scopeKind", .string (js spec.audience.scopeKind.name)),
      ("scopeId", .string spec.audience.scopeId)]),
    ("provenance", .object [
      ("sourceKind", .string (js spec.provenance.sourceKind.name)),
      ("sourceId", .string spec.provenance.sourceId),
      ("actorId", .string spec.provenance.actorId)]),
    ("trust", .string (js spec.trust.name)),
    ("sensitivity", .string (js spec.sensitivity.name)),
    ("purpose", .string (js spec.purpose.name)),
    ("budget", .object [("tokenCap", .number spec.tokenCap)]),
    ("freshness", .object [
      ("observedAt", .string spec.freshness.observedAt),
      ("expiresAt", .ofOption .string spec.freshness.expiresAt)]),
    ("estimatedTokens", .number (estimateTokens projection.content)),
    ("contentDigest", .string contentDigest),
    ("sourceDigest", .string sourceDigest),
    ("truncatedFromTokens", if projection.content = spec.content then .null
      else .number (estimateTokens spec.content))]

/-- Lines with line feeds between them. -/
def joinLines : List (List UInt16) → List UInt16
  | [] => []
  | [line] => line
  | line :: rest => line ++ unit '\n' :: joinLines rest

/-- The frame around the metadata and the escaped content of a fragment. -/
def frame (metadata escaped : List UInt16) : JsString :=
  ⟨joinLines [(js "<crewon_governed_context>").units, metadata, (js "<content>").units, escaped,
    (js "</content>").units, (js "</crewon_governed_context>").units]⟩

section Building

-- the digest of a text, as the caller computes it
variable (sha256 : JsString → JsString)

/-- What a model sees of a fragment. -/
def fragmentContent (spec : GovernedContextFragmentSpec) : Checked JsString := do
  let projection := projectEscapedContent spec.content spec.tokenCap
  let contentDigest ← requireGovernedDigest (sha256 projection.content)
    "governed_context_digest_invalid"
  let sourceDigest ← requireGovernedDigest (sha256 spec.content)
    "governed_context_source_digest_invalid"
  return frame (fragmentMetadata spec projection contentDigest sourceDigest).write
    projection.escaped.units

/-- Who speaks in the item of a fragment. -/
def fragmentRole (spec : GovernedContextFragmentSpec) : ContextMessageRole :=
  if spec.trust = .trustedApplication then .developer else .user

/-- The items of fragments with the bytes of all items so far. -/
def buildItems (audience : GovernedContextAudience) :
    List JsString → Nat → List GovernedContextFragmentSpec →
      Checked (List ContextHistoryItem × Nat)
  | _, bundleBytes, [] => .ok ([], bundleBytes)
  | fragmentIds, bundleBytes, spec :: rest => do
    validateFragmentSpec spec audience fragmentIds
    let content ← fragmentContent sha256 spec
    let total := bundleBytes + content.byteLength
    rejectIf (maxBundleBytes < total) (governedContextError "governed_context_bundle_too_large")
    let later ← buildItems audience (spec.fragmentId :: fragmentIds) total rest
    return (.message (fragmentRole spec) content :: later.1, later.2)

/-- The items of a bundle. -/
structure GovernedContextBundle where
  audience : GovernedContextAudience
  items : List ContextHistoryItem
  byteLength : Nat
deriving DecidableEq

/-- Build a bundle for an audience. -/
def GovernedContextBundle.build (audience : GovernedContextAudience)
    (fragments : List GovernedContextFragmentSpec) : Checked GovernedContextBundle := do
  validateAudience audience
  rejectIf (fragments.length < 1 ∨ maxFragments < fragments.length)
    (governedContextError "governed_context_fragment_count_invalid")
  let built ← buildItems sha256 audience [] 0 fragments
  return ⟨audience, built.1, built.2⟩

end Building

end Crewon.Context

import Crewon.Domain.ExtensionJson
import Crewon.Js.DateText

/-!
# Fields of creative projects

The checks that the records of creative projects share: identifiers, revisions, timestamps, digests
and the bounds of a record.
-/

namespace Crewon.Domain

open Crewon.Js Crewon.Checked

/-- A rejection of a record of a creative project. -/
def creativeProjectError (code : String) : Failure := ⟨.creativeProject, code⟩

/-- A rejection of a record of texts. -/
def projectTextError (code : String) : Failure := ⟨.projectText, code⟩

/-- The rejection of a record whose JSON is out of bounds. -/
def creativeProjectJsonError (failure : Failure) : Failure :=
  if failure.code = "extension_json_limit" then creativeProjectError "creative_project_json_limit"
  else creativeProjectError "creative_project_json_invalid"

/-- The bounds of a record. -/
def creativeProjectRecord (input : JsonValue) : Checked Unit := do
  let _ ← (copyExtensionJson input 65536).mapError creativeProjectJsonError
  return ()

/-- The checks of an identifier. -/
def creativeProjectOpaqueId (input : JsString) : Checked Unit := do
  rejectIf (input.length = 0 ∨ 128 < input.length ∨ input.trim ≠ input ∨
      input.units.any JsString.isControlOrDelete = true)
    (creativeProjectError "creative_project_identity_invalid")
  rejectIf (input.hasLoneSurrogate = true)
    (creativeProjectError "creative_project_unicode_invalid")

/-- The checks of a revision. -/
def creativeProjectRevision (input minimum : Int) : Checked Unit :=
  rejectIf (isSafeInteger input = false ∨ input < minimum)
    (creativeProjectError "creative_project_revision_invalid")

/-- The checks of a timestamp: it is written as the host writes it. -/
def creativeProjectTimestamp (input : JsString) : Checked Unit :=
  rejectIf (input.length ≠ 24 ∨ (dateParse input).bind toIsoString ≠ some input)
    (creativeProjectError "creative_project_timestamp_invalid")

/-- The checks of a digest. -/
def creativeProjectDigest (input : JsString) : Checked Unit :=
  rejectIf (isDigest input = false) (creativeProjectError "creative_project_digest_invalid")

/-- The checks of an identifier of a text: it is no dot segment either. -/
def projectTextOpaqueId (input : JsString) : Checked Unit := do
  creativeProjectOpaqueId input
  rejectIf (input = js "." ∨ input = js "..") (projectTextError "project_text_identity_invalid")

/-- Who acts on a project. -/
structure CreativeProjectActor where
  tenantId : JsString
  spaceId : JsString
  principalId : JsString
  actorId : JsString
deriving DecidableEq

/-- An actor as JSON. -/
def CreativeProjectActor.json (actor : CreativeProjectActor) : JsonValue :=
  .object [("tenantId", .string actor.tenantId), ("spaceId", .string actor.spaceId),
    ("principalId", .string actor.principalId), ("actorId", .string actor.actorId)]

/-- The checks of an actor. -/
def validateCreativeProjectActor (input : CreativeProjectActor) : Checked Unit := do
  creativeProjectRecord input.json
  creativeProjectOpaqueId input.tenantId
  creativeProjectOpaqueId input.spaceId
  creativeProjectOpaqueId input.principalId
  creativeProjectOpaqueId input.actorId

end Crewon.Domain

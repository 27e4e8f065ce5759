import Mathlib.Data.List.DropRight
import Phantasma.Shared.Wire

/-!
# The HTTP interface of the relay, as the client uses it

The functions of `server_api.rs` that look up a public key, and those that make the
addresses of the relay.  The answer to a request is what the HTTP library makes of whatever
the other side sends, or `none` when the request fails.
-/

namespace Phantasma

/-- An answer to an HTTP request: the status with its text, the body, and the body as
`text()` decodes it; the last two are `none` when the body cannot be read. -/
structure HttpResponse where
  status : ℕ
  statusText : String
  body : Option Bytes
  text : Option String

/-- The status is one of success. -/
def HttpResponse.isSuccess (response : HttpResponse) : Bool :=
  200 ≤ response.status && response.status < 300

/-- `ServerEndpoints`, as far as a lookup uses it. -/
structure ServerEndpoints where
  httpBaseUrl : String

/-- `ensure_success`. -/
def ensureSuccess (response : HttpResponse) : Except Error HttpResponse := do
  if response.isSuccess then
    return response
  let body := response.text.getD ""
  if body.isEmpty then
    throw (.text s!"server returned {response.statusText}")
  throw (.text s!"server returned {response.statusText}: {body}")

/-- `lookup_public_key`, where `answer` is the answer to the request it makes. -/
def lookupPublicKey (serde : JsonCodec) (endpoints : ServerEndpoints)
    (answer : Option HttpResponse) (username : String) :
    Except Error (Option PublicKeyEntry) := do
  if !isValidUsername username then
    throw (.text "username must use only letters, numbers, '.', '-', or '_'")
  let url := s!"{endpoints.httpBaseUrl}/users/{username}/public-key"
  let response ← orError (.text s!"failed to look up public key at {url}") answer
  if response.status = 404 then
    return none
  let response ← ensureSuccess response
  let body ← orError .http response.body
  match fromWire serde PublicKeyEntry.ofJson body with
  | .ok entry => return some entry
  | .error _ => throw .http

section

variable {serde : JsonCodec} {endpoints : ServerEndpoints} {response : HttpResponse}
    {username : String}

/-- A key that is not found is no error. -/
theorem lookupPublicKey_of_not_found
    (hname : isValidUsername username) (hstatus : response.status = 404) :
  lookupPublicKey serde endpoints (some response) username = .ok none
  := by
  rw [lookupPublicKey, hname]
  apply if_pos hstatus

/-- The entry of a successful answer is read. -/
theorem lookupPublicKey_of_entry
    (hname : isValidUsername username) (hstatus : response.status = 200) {body : Bytes}
    (hbody : response.body = some body) {entry : PublicKeyEntry}
    (hread : fromWire serde PublicKeyEntry.ofJson body = .ok entry) :
  lookupPublicKey serde endpoints (some response) username = .ok (some entry)
  := by
  have hsuccess : ensureSuccess response = .ok response := by
    rw [ensureSuccess, HttpResponse.isSuccess, hstatus]
    rfl
  simp only [lookupPublicKey, hname, Bool.not_true, Bool.false_eq_true, if_false, orError,
    ok_bind, hstatus, hsuccess, hbody, hread]
  rfl

end

/-! ### The addresses of the relay -/

/-- `ServerEndpoints`, with both addresses. -/
structure RelayEndpoints extends ServerEndpoints where
  websocketBaseUrl : String

/-- The address that `lookup_public_key` requests. -/
def ServerEndpoints.lookupUrl (endpoints : ServerEndpoints) (username : String) : String :=
  s!"{endpoints.httpBaseUrl}/users/{username}/public-key"

/-- `strip_prefix`. -/
def stripPrefix (start : String) (text : List Char) : Option (List Char) :=
  if start.toList.isPrefixOf text then some (text.drop start.toList.length) else none

/-- `strip_suffix`. -/
def stripSuffix (ending : String) (text : List Char) : Option (List Char) :=
  (stripPrefix (String.ofList ending.toList.reverse) text.reverse).map List.reverse

namespace RelayEndpoints

/-- The two addresses with what follows the scheme. -/
def ofRest (httpScheme websocketScheme : String) (rest : List Char) : RelayEndpoints where
  httpBaseUrl := httpScheme ++ String.ofList rest
  websocketBaseUrl := websocketScheme ++ String.ofList rest

/-- `from_optional_arg`. -/
def fromOptionalArg (arg : Option String) : Except Error RelayEndpoints :=
  let raw := arg.getD "http://127.0.0.1:3000"
  let trimmed := raw.toList.rdropWhile (· = '/')
  match stripPrefix "http://" trimmed with
  | some rest => .ok (ofRest "http://" "ws://" rest)
  | none =>
      match stripPrefix "https://" trimmed with
      | some rest => .ok (ofRest "https://" "wss://" rest)
      | none =>
          match stripPrefix "ws://" trimmed with
          | some rest => .ok (ofRest "http://" "ws://" ((stripSuffix "/ws" rest).getD rest))
          | none =>
              match stripPrefix "wss://" trimmed with
              | some rest => .ok (ofRest "https://" "wss://" ((stripSuffix "/ws" rest).getD rest))
              | none =>
                  .error (.text "server must start with http://, https://, ws://, or wss://")

/-- `websocket_url`. -/
def websocketUrl (endpoints : RelayEndpoints) (username : String) : String :=
  s!"{endpoints.websocketBaseUrl}/ws/{username}"

theorem stripPrefix_append (start : String) (text : List Char) :
  stripPrefix start (start.toList ++ text) = some text
  := by
  rw [stripPrefix, if_pos (List.isPrefixOf_iff_prefix.mpr (List.prefix_append _ _)),
    List.drop_left]

end RelayEndpoints

end Phantasma

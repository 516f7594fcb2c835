import NknSdk.Lib.Exec
import NknSdk.Lib.Utf8
import NknSdk.Utils.Json

/-!
# One request to an RPC server

`http_post` of `src/rpc.rs`: what comes of the answer of one server.  The address
becomes a URI, the bytes that come back a text, the text a JSON value, and the value
an `RPCResponse` over the type of the result.

The HTTP client is its reply, and the syntaxes of URIs and JSON and the texts of their
errors are parameters.
-/

namespace NknSdk.Rpc

/-- `rpc::RPCError`. -/
structure RPCError where
  code : Int32
  message : String
  data : String

/-- `rpc::RPCResponse`. -/
structure RPCResponse (D : Type) where
  result : Option D
  error : Option RPCError

def RPCError.deserialize (j : Json) : Option RPCError := do
  match ← j.fields ["code", "message", "data"] with
  | [code, message, data] =>
      return { code := ← code.asI32, message := ← message.asStr, data := ← data.asStr }
  | _ => none

namespace RPCResponse

variable {D : Type}

/-- The response from its two fields. -/
def ofFields (deserialize : Json → Option D) (result error : Json) : Option (RPCResponse D) := do
  return { result := ← result.asOption deserialize, error := ← error.asOption RPCError.deserialize }

/-- `RPCResponse::deserialize`, over the type that `deserialize` reads. -/
def deserialize (deserialize : Json → Option D) : Json → Option (RPCResponse D)
  | .obj entries => do
      ofFields deserialize (← Json.optionalEntry entries "result")
        (← Json.optionalEntry entries "error")
  | .arr [result, error] => ofFields deserialize result error
  | _ => none

end RPCResponse

/-- What the request takes from outside. -/
structure PostDeps (D : Type) where
  /-- `Request::builder` takes the address for a URI. -/
  uri : String → Bool
  /-- The JSON parser under `serde_json::from_str`. -/
  parse : String → Option Json
  /-- `D::deserialize`. -/
  deserialize : Json → Option D
  utf8Error : List UInt8 → String
  jsonError : String → String

/-- What comes back from a server. -/
inductive HttpReply where
  /-- The connection has failed. -/
  | refused (err : String)
  /-- It has failed while the body came in. -/
  | cut (err : String)
  | body (bytes : List UInt8)

variable {D : Type}

/-- `serde_json::from_str` of a response. -/
def PostDeps.fromStr (d : PostDeps D) (text : String) : Option (RPCResponse D) := do
  RPCResponse.deserialize d.deserialize (← d.parse text)

/-- What `http_post` makes of a response. -/
def RPCResponse.outcome (res : RPCResponse D) : Outcome String D :=
  match res.error with
  | some err => .err (err.message ++ ": " ++ err.data)
  | none =>
      match res.result with
      | some v => .ok v
      | none => .panic

/-- `http_post`, when `reply` comes back. -/
def httpPost (d : PostDeps D) (uri : String) (reply : HttpReply) : Outcome String D :=
  if d.uri uri then
    match reply with
    | .refused err => .err ("Client: " ++ err)
    | .cut err => .err ("Body: " ++ err)
    | .body body =>
        match Utf8.strict body with
        | none => .err ("Body: " ++ d.utf8Error body)
        | some bodyStr =>
            match d.fromStr bodyStr with
            | none => .err ("Json: " ++ d.jsonError bodyStr)
            | some res => res.outcome
  else .panic

/-- The reply is a body that holds the response `res`. -/
def HttpReply.Holds (d : PostDeps D) (reply : HttpReply) (res : RPCResponse D) : Prop :=
  ∃ bytes text, reply = .body bytes ∧ Utf8.strict bytes = some text ∧ d.fromStr text = some res

/-- The reply is a valid result. -/
def HttpReply.Valid (d : PostDeps D) (reply : HttpReply) : Prop :=
  ∃ v, reply.Holds d { result := some v, error := none }

/-- The reply is no response, or one with an error. -/
def HttpReply.Fails (d : PostDeps D) (reply : HttpReply) : Prop :=
  ∀ res, reply.Holds d res → res.error ≠ none

/-- The reply is a response with no error and with no result, or with `null` for it. -/
def HttpReply.Empty (d : PostDeps D) (reply : HttpReply) : Prop :=
  reply.Holds d { result := none, error := none }

namespace HttpReply

variable {d : PostDeps D} {uri : String} {reply : HttpReply}

theorem Holds.httpPost {res : RPCResponse D} (h : reply.Holds d res) (huri : d.uri uri = true) :
    Rpc.httpPost d uri reply = res.outcome := by
  obtain ⟨bytes, text, rfl, htext, hres⟩ := h
  simp only [Rpc.httpPost, huri, if_true, htext, hres]

/-- A reply to a request fails by itself, or it holds a response. -/
theorem httpPost_cases (huri : d.uri uri = true) (reply : HttpReply) :
    (∃ e, httpPost d uri reply = .err e) ∨ ∃ res, reply.Holds d res := by
  rw [httpPost.eq_def, if_pos huri]
  cases reply with
  | refused err => exact Or.inl ⟨_, rfl⟩
  | cut err => exact Or.inl ⟨_, rfl⟩
  | body bytes =>
      dsimp only
      cases htext : Utf8.strict bytes with
      | none => exact Or.inl ⟨_, rfl⟩
      | some text =>
          dsimp only
          cases hres : d.fromStr text with
          | none => exact Or.inl ⟨_, rfl⟩
          | some res => exact Or.inr ⟨res, bytes, text, rfl, htext, hres⟩

theorem Valid.httpPost (h : reply.Valid d) (huri : d.uri uri = true) :
    ∃ v, Rpc.httpPost d uri reply = .ok v := by
  obtain ⟨v, hv⟩ := h
  exact ⟨v, hv.httpPost huri⟩

theorem Holds.unique {res res' : RPCResponse D} (h : reply.Holds d res) (h' : reply.Holds d res') :
    res = res' := by
  obtain ⟨bytes, text, rfl, htext, hres⟩ := h
  obtain ⟨bytes', text', hbytes, htext', hres'⟩ := h'
  cases hbytes
  rw [htext, Option.some.injEq] at htext'
  rw [htext', hres', Option.some.injEq] at hres
  exact hres.symm

/-- The request comes back with an error where the reply is none of a result or nothing. -/
theorem httpPost_err_iff (huri : d.uri uri = true) :
    (∃ e, httpPost d uri reply = .err e) ↔ reply.Fails d := by
  constructor
  · rintro ⟨e, he⟩ ⟨result, error⟩ hres rfl
    rw [hres.httpPost huri] at he
    cases result <;> cases he
  · intro hfails
    rcases httpPost_cases huri reply with herr | ⟨⟨result, error⟩, hres⟩
    · exact herr
    · cases error with
      | none => exact absurd rfl (hfails _ hres)
      | some err => exact ⟨_, hres.httpPost huri⟩

/-- The request panics before it is sent, or when it unwraps the result that is not there. -/
theorem httpPost_panic_iff :
    httpPost d uri reply = .panic ↔ d.uri uri = false ∨ reply.Empty d := by
  cases huri : d.uri uri with
  | false => simp [httpPost, huri]
  | true =>
      rw [or_iff_right Bool.noConfusion]
      constructor
      · intro hpanic
        rcases httpPost_cases huri reply with ⟨e, he⟩ | ⟨⟨result, error⟩, hres⟩
        · rw [he] at hpanic
          cases hpanic
        · rw [hres.httpPost huri] at hpanic
          cases error with
          | some err => cases hpanic
          | none =>
              cases result with
              | some v => cases hpanic
              | none => exact hres
      · exact fun hempty => hempty.httpPost huri

/-- The request does not wait for ever once the reply is there. -/
theorem httpPost_ne_block : httpPost d uri reply ≠ .block := by
  intro h
  cases huri : d.uri uri with
  | false => simp [httpPost, huri] at h
  | true =>
      rcases httpPost_cases huri reply with ⟨e, he⟩ | ⟨⟨result, error⟩, hres⟩
      · rw [he] at h
        cases h
      · rw [hres.httpPost huri] at h
        cases error <;> cases result <;> cases h

end HttpReply

end NknSdk.Rpc

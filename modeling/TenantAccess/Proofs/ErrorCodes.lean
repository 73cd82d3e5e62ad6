import TenantAccess.Http.Correlation
import TenantAccess.Http.Handler

set_option autoImplicit false

namespace TenantAccess

namespace Refusal

def codes : List String :=
  ["SECURITY_ERROR", "AUTHENTICATION_FAILED", "AUTHENTICATION_REQUIRED",
    "INVALID_CREDENTIAL_FORMAT", "MALFORMED_CREDENTIAL", "INVALID_OR_EXPIRED_CREDENTIAL",
    "MISSING_ORGANIZATION_CONTEXT", "FORBIDDEN", "ORGANIZATION_ACCESS_DENIED",
    "INSUFFICIENT_PERMISSIONS", "PRIVILEGE_ESCALATION", "OWNER_REQUIRED", "INVALID_ROLE",
    "INVALID_RESOURCE", "INVALID_ACTION", "RESERVED_ROLE_NAME", "DUPLICATE_ROLE_NAME",
    "ROLE_LIMIT_EXCEEDED", "ROLE_IN_USE", "ROLE_NOT_FOUND"]

theorem code_mem_codes (refusal : Refusal) : refusal.code ∈ codes := by
  cases refusal <;> simp [code, codes]

/-- A code is written as it is, and no mark in it ends the text. -/
theorem code_written (refusal : Refusal) :
    refusal.code.toList.flatMap (Json.writeChar false) = refusal.code.toList ∧
      ∀ c ∈ refusal.code.toList, c ≠ '"' := by
  have plain : ∀ code ∈ codes, code.toList.flatMap (Json.writeChar false) = code.toList ∧
      '"' ∉ code.toList := by decide +kernel
  obtain ⟨unescaped, absent⟩ := plain refusal.code refusal.code_mem_codes
  exact ⟨unescaped, fun c member same => absent (same ▸ member)⟩

end Refusal

namespace Http.Response

def codeLead : List Char := ['\x7b', '"', 'c', 'o', 'd', 'e', '"', ':', '"']

/-- The code that a response reports: the text between the lead and the mark that ends it. -/
def errorCode? (response : Response) : Option String :=
  if codeLead.isPrefixOf response.body.toList then
    some (String.ofList ((response.body.toList.drop codeLead.length).takeWhile (· ≠ '"')))
  else none

@[simp] theorem errorCode?_withHeader (response : Response) (name value : String) :
    (response.withHeader name value).errorCode? = response.errorCode? := rfl

theorem errorCode?_eq_some {response : Response} {code rest : List Char}
    (body : response.body.toList = codeLead ++ (code ++ '"' :: rest))
    (plain : ∀ c ∈ code, c ≠ '"') : response.errorCode? = some (String.ofList code) := by
  have begins : codeLead.isPrefixOf response.body.toList = true := by
    rw [body]
    exact List.isPrefixOf_iff_prefix.mpr (List.prefix_append _ _)
  rw [errorCode?, if_pos begins, body, List.drop_left, List.takeWhile_append_of_pos,
    List.takeWhile_cons_of_neg, List.append_nil]
  · decide
  · exact fun c member => decide_eq_true (plain c member)

theorem errorCode?_eq_none {response : Response} {c : Char} (index : Nat)
    (lead : codeLead[index]? = some c) (differs : response.body.toList[index]? ≠ some c) :
    response.errorCode? = none := by
  rw [errorCode?, if_neg]
  intro begins
  obtain ⟨rest, body⟩ := List.isPrefixOf_iff_prefix.mp begins
  obtain ⟨within, -⟩ := List.getElem?_eq_some_iff.mp lead
  rw [← body, List.getElem?_append_left within] at differs
  exact differs lead

end Http.Response

theorem Refusal.toList_compact_envelope (refusal : Refusal) (correlationId : Option String) :
    ∃ rest, (refusal.envelope correlationId).compact.toList =
      Http.Response.codeLead ++ (refusal.code.toList ++ '"' :: rest) := by
  unfold envelope Json.compact Json.render
  rw [String.toList_ofList]
  simp only [Json.write, Json.writeMembers, Json.Style.compact, Json.writeString,
    refusal.code_written.1]
  exact ⟨_, by simp [Http.Response.codeLead]; rfl⟩

namespace Http.Response

theorem body_ofRefusal (refusal : Refusal) (correlationId : Option String) :
    (ofRefusal refusal correlationId).body = (refusal.envelope correlationId).compact := by
  unfold ofRefusal
  dsimp only
  split <;> rfl

theorem errorCode?_ofRefusal (refusal : Refusal) (correlationId : Option String) :
    (ofRefusal refusal correlationId).errorCode? = some refusal.code := by
  obtain ⟨rest, body⟩ := refusal.toList_compact_envelope correlationId
  rw [← body_ofRefusal] at body
  rw [errorCode?_eq_some body refusal.code_written.2, String.ofList_toList]

/-- An object whose first member has a name that begins in another way reports no code. -/
theorem errorCode?_ofJson {status : Nat} {name : String} {value : Json}
    {members : List (String × Json)} {c : Char}
    (named : (Json.writeString false name)[1]? = some c) (differs : c ≠ 'c') :
    (ofJson status (.object ((name, value) :: members))).errorCode? = none := by
  have begins : ∃ rest, Json.writeMembers .compact ((name, value) :: members) =
      Json.writeString false name ++ rest := by
    cases members with
    | nil => exact ⟨_, List.append_assoc _ _ _⟩
    | cons member others =>
      simp only [Json.writeMembers, Json.Style.compact, List.append_assoc]
      exact ⟨_, rfl⟩
  obtain ⟨rest, begins⟩ := begins
  have body : (ofJson status (.object ((name, value) :: members))).body.toList[2]? = some c := by
    obtain ⟨within, -⟩ := List.getElem?_eq_some_iff.mp named
    rw [ofJson, Json.compact, Json.render, String.toList_ofList, Json.write, begins,
      List.cons_append, List.getElem?_cons_succ, List.append_assoc,
      List.getElem?_append_left within, named]
  refine errorCode?_eq_none 2 rfl ?_
  rw [body, ne_eq, Option.some.injEq]
  exact differs

end Http.Response

theorem Metrics.Series.sample_begins (series : Series) :
    ∃ c rest, series.sample.toList = c :: rest ∧ c ≠ '\x7b' := by
  have filled : series.sample.toList ≠ [] ∧ series.sample.toList.head? ≠ some '\x7b' := by
    cases series <;> simp only [sample] <;> decide
  obtain ⟨c, rest, text⟩ := List.exists_cons_of_ne_nil filled.1
  refine ⟨c, rest, text, fun brace => filled.2 ?_⟩
  rw [text, brace, List.head?_cons]

theorem Metrics.exposition_begins (entry : Series × Nat) :
    ∃ c rest, (exposition entry).toList = c :: rest ∧ c ≠ '\x7b' := by
  obtain ⟨c, rest, text, differs⟩ := entry.1.sample_begins
  simp only [exposition, String.toList_append, text, List.cons_append]
  exact ⟨c, _, rfl, differs⟩

namespace Http.Response

theorem errorCode?_metrics (status : Nat) (type : String) (metrics : Metrics) :
    (ofText status type ("\n".intercalate metrics.expositionLines)).errorCode? = none := by
  have begins : ∀ line ∈ metrics.expositionLines, ∃ c rest,
      line.toList = c :: rest ∧ c ≠ '\x7b' := by
    intro line listed
    rw [Metrics.expositionLines, List.mem_mergeSort, List.mem_map] at listed
    obtain ⟨entry, -, rfl⟩ := listed
    exact Metrics.exposition_begins entry
  refine errorCode?_eq_none 0 (c := '\x7b') rfl ?_
  rw [ofText, String.toList_intercalate]
  cases lines : metrics.expositionLines with
  | nil => nofun
  | cons line others =>
    obtain ⟨c, rest, text, differs⟩ := begins line (lines ▸ List.mem_cons_self)
    cases others with
    | nil => simpa [text] using differs
    | cons next more => simpa [List.intercalate, text] using differs

/-- A response that reports no refusal and carries no correlation id. -/
structure Plain (response : Response) : Prop where
  code : response.errorCode? = none
  header : Correlation.header ∉ response.headers.map Prod.fst

theorem Plain.withHeader {response : Response} (plain : response.Plain) {name : String}
    (other : Correlation.header ≠ name) (value : String) :
    (response.withHeader name value).Plain where
  code := plain.code
  header listed := by
    rw [Response.withHeader, List.map_append, List.mem_append] at listed
    rcases listed with before | added
    · exact plain.header before
    · exact other (List.mem_singleton.mp added)

theorem plain_ofJson {status : Nat} {name : String} {value : Json} {members : List (String × Json)}
    {c : Char} (named : (Json.writeString false name)[1]? = some c) (differs : c ≠ 'c') :
    (ofJson status (.object ((name, value) :: members))).Plain where
  code := errorCode?_ofJson named differs
  header := (by decide : Correlation.header ∉ [contentType])

theorem plain_ofDetail (status : Nat) (detail : String) : (ofDetail status detail).Plain :=
  plain_ofJson (c := 'd') (by decide) (by decide)

theorem plain_wrongMethod (allowed : String) : (wrongMethod allowed).Plain :=
  (plain_ofDetail 405 _).withHeader (by decide) allowed

theorem plain_redirect (location : String) : (redirect location).Plain where
  code := errorCode?_eq_none (c := '\x7b') 0 rfl nofun
  header := (by decide : Correlation.header ∉ ["location"])

theorem plain_metrics (metrics : Metrics) :
    (ofText 200 Handler.metricsType ("\n".intercalate metrics.expositionLines)).Plain where
  code := errorCode?_metrics _ _ metrics
  header := (by decide : Correlation.header ∉ [contentType])

theorem ofDocument_eq_ok {status : Nat} {document : Json} {response : Response}
    (responds : ofDocument status document = .ok response) :
    document.isEncodable = true ∧ ofJson status document = response := by
  unfold ofDocument at responds
  split at responds
  · next encodable => exact ⟨encodable, Except.ok.inj responds⟩
  · cases responds

theorem plain_respond {errors : List FieldError} {response : Response}
    (responds : Content.respond errors = .ok response) : response.Plain := by
  unfold Content.respond at responds
  dsimp only at responds
  split at responds
  · obtain ⟨-, rfl⟩ := ofDocument_eq_ok responds
    exact plain_ofJson (c := 'd') (by decide) (by decide)
  · cases responds

theorem header_ofRefusal (refusal : Refusal) (correlationId : Option String) :
    Correlation.header ∉ (ofRefusal refusal correlationId).headers.map Prod.fst := by
  unfold ofRefusal
  dsimp only
  split
  · exact (by decide : Correlation.header ∉ [contentType, "www-authenticate"])
  · exact (by decide : Correlation.header ∉ [contentType])

end Http.Response

end TenantAccess

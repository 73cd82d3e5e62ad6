import TenantAccess.Proofs.KeyFaults
import TenantAccess.Proofs.RefetchSpacing
import TenantAccess.Proofs.TokenAcceptance

/- Rotation of keys. A token whose key the endpoint publishes by now is judged by that key, whatever
the verifier remembers, if no refetch was within the cooldown. It is not so where the document at
hand has no signing keys at all: such a document ends the look-up before it comes to a refetch. -/

set_option autoImplicit false

namespace TenantAccess.Token

/-- A document lists a key for signatures under an id. -/
def Offers (document : Json) (id : Text.Wide) : Prop :=
  ∃ members entries entry key, document = .object members ∧
    Table.lookup? "keys" members = some (.array entries) ∧ entry ∈ entries ∧
    Publishes entry key ∧ key.id = .ofText id

theorem id_of_matchKey? {keys : List Key} {id : Text.Wide} {key : Key}
    (matched : matchKey? keys (some id) = some key) : key.id = .ofText id := by
  rw [matchKey?] at matched
  have fits := List.find?_some matched
  exact (Json.text?_eq_some_iff).mp (beq_iff_eq.mp fits)

theorem exists_matchKey? {keys : List Key} {id : Text.Wide} {key : Key} (listed : key ∈ keys)
    (named : key.id = .ofText id) : ∃ first, matchKey? keys (some id) = some first := by
  refine Option.isSome_iff_exists.mp (List.find?_isSome.mpr ⟨key, listed, ?_⟩)
  rw [Json.text?_eq_some_iff.mpr named]
  exact beq_self_eq_true _

/-- A document that offers a key is read with it, unless it also lists what cannot be read. -/
theorem Offers.signingKeys_cases {document : Json} {id : Text.Wide} (offers : Offers document id) :
    (∃ keys key, signingKeys document = .ok keys ∧ matchKey? keys (some id) = some key) ∨
      ∃ fault, signingKeys document = .error (.fault fault) := by
  obtain ⟨members, entries, entry, key, rfl, listed, among, publishes, named⟩ := offers
  have truthy : (Json.array entries).isTruthy = true := by
    cases entries with
    | nil => cases among
    | cons => rfl
  cases read : readEntries entries with
  | error fault =>
    refine Or.inr ⟨fault, ?_⟩
    simp only [signingKeys, listed, Option.getD_some, truthy, read, Bool.not_true,
      Bool.false_eq_true, ↓reduceIte]
  | ok usable =>
    have signing := signing_of_readEntries read
    have member : key ∈ entries.filterMap publishedKey? :=
      List.mem_filterMap.mpr ⟨entry, among, (publishedKey?_eq_some_iff entry key).mpr publishes⟩
    obtain ⟨first, matched⟩ := exists_matchKey? member named
    refine Or.inl ⟨entries.filterMap publishedKey?, first, ?_, matched⟩
    rw [← signing] at member ⊢
    unfold signingKeys
    simp only [listed, Option.getD_some, truthy, read, Bool.not_true, Bool.false_eq_true,
      ↓reduceIte]
    cases usable with
    | nil => cases member
    | cons =>
      dsimp only
      split
      · rename_i none
        rw [none] at member
        cases member
      · rfl

theorem offers_of_matchKey? {document : Json} {id : Text.Wide} {keys : List Key} {key : Key}
    (read : signingKeys document = .ok keys) (matched : matchKey? keys (some id) = some key) :
    Offers document id := by
  obtain ⟨members, entries, object, listed, rfl⟩ := signingKeys_eq_ok read
  obtain ⟨before, entry, after, rfl, publishes, named, -⟩ := matchKey?_some_eq_some matched
  have among : entry ∈ before ++ entry :: after := List.mem_append_right _ List.mem_cons_self
  exact ⟨members, _, entry, key, object, listed, among, publishes, named⟩

theorem exists_offered {answer : Answer} {id : Text.Wide}
    (listed : ((answer.document.bind signingKeys).toOption.bind
      (matchKey? · (some id))).isSome = true) :
    ∃ document, answer.document = .ok document ∧ Offers document id := by
  obtain ⟨key, found⟩ := Option.isSome_iff_exists.mp listed
  cases read : answer.document.bind signingKeys with
  | error failure =>
    rw [read] at found
    cases found
  | ok keys =>
    rw [read] at found
    obtain ⟨document, served, keysRead⟩ := (bind_eq_ok_iff _ _ _).mp read
    exact ⟨document, served, offers_of_matchKey? keysRead found⟩

namespace KeySource

variable {source : KeySource} {policy : KeyPolicy} {now : Rat} {id : Option Text.Wide}
  {keys : List Key} {document : Json}

/-- A source whose document at hand ends each look-up before it comes to a fetch: it has no signing
keys, or it cannot be told how long it is kept. -/
inductive Stuck (source : KeySource) (policy : KeyPolicy) (now : Rat) : LookupFailure → Prop
  | unusable {document : Json} {failure : LookupFailure}
      (current : source.memory.current policy now = .ok (some document))
      (unusable : signingKeys document = .error failure) : Stuck source policy now failure
  | endless {fault : Fault} (endless : source.memory.current policy now = .error fault) :
      Stuck source policy now (.fault fault)

theorem find_of_stuck {failure : LookupFailure} (stuck : source.Stuck policy now failure)
    (id : Option Text.Wide) : source.find policy now id = (⟨.error failure, false⟩, source) := by
  cases stuck with
  | unusable current unusable => simp only [find, KeySource.keys, current, unusable]
  | endless endless => simp only [find, KeySource.keys, endless]

theorem find_of_matched {key : Key} (listed : (source.keys policy now).1 = .ok keys)
    (matched : matchKey? keys id = some key) :
    (source.find policy now id).1.found = .ok (some key) := by
  unfold find
  cases first : source.keys policy now with
  | mk result after =>
    rw [first] at listed
    cases listed
    simp only [matched]

/-- Where the document at hand can be read and lacks the key, a fresh one is looked through. -/
theorem find_of_current (current : source.memory.current policy now = .ok (some document))
    (listed : signingKeys document = .ok keys) (unmatched : matchKey? keys id = none)
    (due : source.memory.mayRefresh policy now = true) :
    (source.find policy now id).1.found =
      (source.endpoint.nextAnswer.document.bind signingKeys).map (matchKey? · id) := by
  simp only [find, KeySource.keys, current, listed, unmatched, due, ↓reduceIte, freshKeys_result]

def Lookup.problem? (lookup : Lookup) : Option SourceProblem :=
  match lookup.found with
  | .error (.problem problem) => some problem
  | _ => none

theorem found_of_problem? {lookup : Lookup} {problem : SourceProblem}
    (ended : lookup.problem? = some problem) : lookup.found = .error (.problem problem) := by
  unfold Lookup.problem? at ended
  split at ended
  · rename_i found
    rw [found, Option.some.inj ended]
  · cases ended

theorem keys_of_outdated (outdated : source.memory.current policy now = .ok none) :
    source.keys policy now = source.freshKeys now := by
  rw [KeySource.keys, outdated]

/-- A key that the next answer offers is found, unless the source is stuck or the answer lists
something that is no key. -/
theorem find_of_offers {id : Text.Wide} (due : source.memory.mayRefresh policy now = true)
    (served : source.endpoint.nextAnswer.document = .ok document) (offers : Offers document id) :
    (∃ key, (source.find policy now (some id)).1.found = .ok (some key) ∧ key.id = .ofText id) ∨
      (∃ failure, source.Stuck policy now failure) ∨
      ∃ fault, (source.find policy now (some id)).1.found = .error (.fault fault) ∧
        Unlistable document fault := by
  have fresh : source.endpoint.nextAnswer.document.bind signingKeys = signingKeys document := by
    rw [served]
    rfl
  cases current : source.memory.current policy now with
  | error fault => exact Or.inr (Or.inl ⟨_, .endless current⟩)
  | ok held =>
    cases held with
    | none =>
      have first : (source.keys policy now).1 = signingKeys document := by
        rw [keys_of_outdated current, freshKeys_result, fresh]
      rcases offers.signingKeys_cases with ⟨keys, key, listed, matched⟩ | ⟨fault, failed⟩
      · exact Or.inl ⟨key, find_of_matched (first.trans listed) matched, id_of_matchKey? matched⟩
      · exact Or.inr (Or.inr ⟨fault, find_of_keys_error (first.trans failed),
          signingKeys_eq_fault failed⟩)
    | some held =>
      cases listed : signingKeys held with
      | error failure => exact Or.inr (Or.inl ⟨failure, .unusable current listed⟩)
      | ok keys =>
        have first : (source.keys policy now).1 = .ok keys := by
          rw [KeySource.keys, current]
          exact listed
        cases matched : matchKey? keys (some id) with
        | some key => exact Or.inl ⟨key, find_of_matched first matched, id_of_matchKey? matched⟩
        | none =>
          -- Nothing was fetched so far, so the refresh brings the same answer as a first look would.
          have found := find_of_current current listed matched due
          rw [fresh] at found
          rcases offers.signingKeys_cases with ⟨others, key, listed, matched⟩ | ⟨fault, failed⟩
          · rw [listed, Except.map, matched] at found
            exact Or.inl ⟨key, found, id_of_matchKey? matched⟩
          · rw [failed] at found
            exact Or.inr (Or.inr ⟨fault, found, signingKeys_eq_fault failed⟩)

end KeySource

namespace Verifier

theorem exists_parse {text : String} {id : Text.Wide}
    (named : (Signed.parse text).toOption.bind Signed.keyId = some id) :
    ∃ token, Signed.parse text = .ok token ∧ token.keyId = some id := by
  cases parsed : Signed.parse text with
  | error failure =>
    rw [parsed] at named
    cases named
  | ok token =>
    rw [parsed] at named
    exact ⟨token, rfl, named⟩

def keyMissing : Fault :=
  .refused (.credentialRejected "Token signing key not found. Please log in again.")

def keysMissing : Fault := .refused (.credentialRejected "Unable to verify token signature")

variable (verifier : Verifier) (state : ServiceState) (calls : List Call) (call : Call)

/-- No refetch of a run is within the cooldown of a time. -/
def Rested (now : Rat) : Prop :=
  ∀ last ∈ verifier.refetchTimes calls state,
    verifier.policy.cooldown.exceeds (verifier.policy.round (now - last)) = false

instance (now : Rat) : Decidable (verifier.Rested state calls now) :=
  inferInstanceAs (Decidable (∀ last ∈ verifier.refetchTimes calls state, _ = false))

variable {verifier state calls call}

theorem Rested.mayRefresh {now : Rat} (rested : verifier.Rested state calls now)
    (fresh : state.keys.memory = .empty) :
    (verifier.afterAll state calls).keys.memory.mayRefresh verifier.policy now = true := by
  unfold KeyMemory.mayRefresh
  rw [verifier.afterAll_lastRefresh state calls fresh]
  cases remembered : (verifier.refetchTimes calls state).getLast? with
  | none => rfl
  | some last =>
    rw [Bool.not_eq_true']
    exact rested last (List.mem_of_getLast? remembered)

theorem not_proper_refused (refusal : Refusal) : ¬ (Fault.refused refusal).Proper := id

theorem accept_ne_refused {ambient : Ambient} {token : Signed} {key : Key} {message : String}
    (other : message ≠ "Invalid or expired token" ∧ message ≠ "Token has expired") :
    verifier.accept ambient token key ≠ .error (.refused (.credentialRejected message)) := by
  intro same
  rw [accept] at same
  cases checked : token.verify ambient.signatures key.material verifier.algorithms
      verifier.issuer ambient.now with
  | ok claims =>
    rw [checked] at same
    cases same
  | error failure =>
    rw [checked] at same
    have refused : refusalOf failure = .refused (.credentialRejected message) :=
      Except.error.inj same
    cases failure with
    | rejected =>
      cases refused
      exact other.1 rfl
    | expired =>
      cases refused
      exact other.2 rfl
    | fault fault =>
      obtain rfl : fault = .refused (.credentialRejected message) := refused
      exact not_proper_refused _ (Signed.proper_of_verify checked)

variable {ambient : Ambient} {token : Signed} {found : Except LookupFailure (Option Key)}

/-- What is said of the keys tells how the look-up ended. -/
theorem judge_eq_keyMissing_iff (proper : ∀ fault, found = .error (.fault fault) → fault.Proper) :
    verifier.judge ambient token found = .error keyMissing ↔ found = .ok none := by
  rcases found with (problem | fault) | (_ | key)
  · simp only [judge, keyMissing, reduceCtorEq, Except.error.injEq, Fault.refused.injEq,
      Refusal.credentialRejected.injEq, String.reduceEq]
  · simp only [judge, Except.error.injEq, reduceCtorEq, iff_false]
    rintro rfl
    exact not_proper_refused _ (proper _ rfl)
  · simp only [judge, keyMissing]
  · simp only [judge, keyMissing, Except.ok.injEq, reduceCtorEq, iff_false]
    exact accept_ne_refused (by decide)

theorem judge_eq_keysMissing_iff (proper : ∀ fault, found = .error (.fault fault) → fault.Proper) :
    verifier.judge ambient token found = .error keysMissing ↔
      ∃ problem, found = .error (.problem problem) := by
  rcases found with (problem | fault) | (_ | key)
  · simp only [judge, keysMissing, Except.error.injEq, LookupFailure.problem.injEq, exists_eq']
  · simp only [judge, Except.error.injEq, reduceCtorEq, exists_false, iff_false]
    rintro rfl
    exact not_proper_refused _ (proper _ rfl)
  · simp only [judge, keysMissing, reduceCtorEq, Except.error.injEq, Fault.refused.injEq,
      Refusal.credentialRejected.injEq, String.reduceEq, exists_false]
  · simp only [judge, keysMissing, reduceCtorEq, exists_false, iff_false]
    exact accept_ne_refused (by decide)

/-- How the look-up of a key that is published by now ends, and what becomes of its token. -/
inductive Rotation (verifier : Verifier) (before : ServiceState) (call : Call) (token : Signed)
    (id : Text.Wide) : Prop
  /-- A key of the id is found, and the token is judged by it. -/
  | recovered {key : Key}
      (found : (before.keys.find verifier.policy call.reading token.keyId).1.found = .ok (some key))
      (named : key.id = .ofText id)
      (judged : ((verifier.verify call.ambient call.text).run before).result =
        verifier.accept call.ambient token key)
  /-- The document at hand is in the way, and nothing is fetched. -/
  | stuck {failure : LookupFailure}
      (stuck : before.keys.Stuck verifier.policy call.reading failure)
      (judged : ((verifier.verify call.ambient call.text).run before).result =
        verifier.judge call.ambient token (.error failure))
      (idle : (verifier.after before call).keys = before.keys)
  /-- What is published also lists something that cannot be read as a key. -/
  | unlisted {document : Json} {fault : Fault}
      (served : before.keys.endpoint.nextAnswer.document = .ok document)
      (unlistable : Unlistable document fault)
      (found : (before.keys.find verifier.policy call.reading token.keyId).1.found =
        .error (.fault fault))
      (escaped : ((verifier.verify call.ambient call.text).run before).result = .error fault)

variable {before : ServiceState} {id : Text.Wide}

theorem rotation_of_offers {document : Json} (parsed : Signed.parse call.text = .ok token)
    (names : token.keyId = some id)
    (due : before.keys.memory.mayRefresh verifier.policy call.reading = true)
    (served : before.keys.endpoint.nextAnswer.document = .ok document)
    (offers : Offers document id) : verifier.Rotation before call token id := by
  have judged := verifier.run_verify_of_parsed call.ambient before parsed
  change _ = verifier.judge call.ambient token
    (before.keys.find verifier.policy call.reading token.keyId).1.found at judged
  rcases KeySource.find_of_offers due served offers with
    ⟨key, found, named⟩ | ⟨failure, stuck⟩ | ⟨fault, found, unlistable⟩
  · rw [← names] at found
    exact .recovered found named (by rw [judged, found]; rfl)
  · have find := KeySource.find_of_stuck stuck token.keyId
    refine .stuck stuck (by rw [judged, find]) ?_
    rw [after_keys_of_parsed _ _ _ parsed, find]
  · rw [← names] at found
    exact .unlisted served unlistable found (by rw [judged, found]; rfl)

theorem Rotation.found_ne_none (rotation : verifier.Rotation before call token id) :
    (before.keys.find verifier.policy call.reading token.keyId).1.found ≠ .ok none := by
  intro nothing
  cases rotation with
  | recovered found =>
    rw [found] at nothing
    cases nothing
  | stuck stuck =>
    rw [KeySource.find_of_stuck stuck] at nothing
    cases nothing
  | unlisted served unlistable found =>
    rw [found] at nothing
    cases nothing

theorem Rotation.found_eq_problem_iff (rotation : verifier.Rotation before call token id)
    (problem : SourceProblem) :
    (before.keys.find verifier.policy call.reading token.keyId).1.found =
        .error (.problem problem) ↔
      before.keys.Stuck verifier.policy call.reading (.problem problem) := by
  refine ⟨fun missing => ?_, fun stuck => by rw [KeySource.find_of_stuck stuck]⟩
  cases rotation with
  | recovered found =>
    rw [found] at missing
    cases missing
  | stuck stuck =>
    rw [KeySource.find_of_stuck stuck] at missing
    cases missing
    exact stuck
  | unlisted served unlistable found =>
    rw [found] at missing
    cases missing

/-- Whatever a verifier was given before and whatever the endpoint answered, a token whose key the
endpoint offers by now is judged by such a key, as far as the verifier is not stuck with a document
that has no signing keys. It is never said that the key is not found, and that the keys are missing
just where the verifier is stuck. -/
theorem rotation_is_recovered_unless_stuck (verifier : Verifier) (state : ServiceState)
    (fresh : state.keys.memory = .empty) (calls : List Call) (call : Call) (token : Signed)
    (id : Text.Wide) (document : Json) (parsed : Signed.parse call.text = .ok token)
    (names : token.keyId = some id) (rested : verifier.Rested state calls call.reading)
    (served : (verifier.afterAll state calls).keys.endpoint.nextAnswer.document = .ok document)
    (offers : Offers document id) :
    let before := verifier.afterAll state calls
    let result := ((verifier.verify call.ambient call.text).run before).result
    verifier.Rotation before call token id ∧ result ≠ .error keyMissing ∧
      (result = .error keysMissing ↔
        ∃ problem, before.keys.Stuck verifier.policy call.reading (.problem problem)) := by
  intro before result
  have rotation : verifier.Rotation before call token id :=
    rotation_of_offers parsed names (rested.mayRefresh fresh) served offers
  have judged : result = verifier.judge call.ambient token
      (before.keys.find verifier.policy call.reading token.keyId).1.found :=
    verifier.run_verify_of_parsed call.ambient before parsed
  have proper : ∀ fault, (before.keys.find verifier.policy call.reading token.keyId).1.found =
      .error (.fault fault) → fault.Proper := fun _ => KeySource.proper_of_find
  rw [judged, ne_eq, judge_eq_keyMissing_iff proper, judge_eq_keysMissing_iff proper]
  exact ⟨rotation, rotation.found_ne_none,
    exists_congr fun problem => rotation.found_eq_problem_iff problem⟩

def rotating : ServiceState := .start fun index =>
  if index = 0 then
    .body "\x7b\"keys\": [\x7b\"kty\": \"oct\", \"kid\": \"b\", \"k\": \"AA\"\x7d]\x7d"
  else .oneKey

def starved : ServiceState := .start fun index =>
  if index = 0 then .body "\x7b\"keys\": []\x7d" else .oneKey

theorem rotated_key_is_recovered :
    ∃ token document, rotating.keys.memory = .empty ∧
      Signed.parse (signedAt 1010).text = .ok token ∧ token.keyId = some (.whole "a") ∧
      (ofIssuer "i").Rested rotating [unknownKeyAt 1000] 1010 ∧
      ((ofIssuer "i").afterAll rotating [unknownKeyAt 1000]).keys.endpoint.nextAnswer.document =
        .ok document ∧ Offers document (.whole "a") ∧
      (((ofIssuer "i").verify (signedAt 1010).ambient (signedAt 1010).text).run
        ((ofIssuer "i").afterAll rotating [unknownKeyAt 1000])).result.isOk = true ∧
      (ofIssuer "i").Rotation ((ofIssuer "i").afterAll rotating [unknownKeyAt 1000])
        (signedAt 1010) token (.whole "a") := by
  obtain ⟨token, parsed, names⟩ : ∃ token, Signed.parse (signedAt 1010).text = .ok token ∧
      token.keyId = some (.whole "a") := exists_parse (by decide +kernel)
  obtain ⟨document, served, offers⟩ : ∃ document,
      ((ofIssuer "i").afterAll rotating [unknownKeyAt 1000]).keys.endpoint.nextAnswer.document =
        .ok document ∧ Offers document (.whole "a") := exists_offered (by decide +kernel)
  have rested : (ofIssuer "i").Rested rotating [unknownKeyAt 1000] 1010 := by decide +kernel
  have ends := rotation_is_recovered_unless_stuck (ofIssuer "i") rotating rfl [unknownKeyAt 1000]
    (signedAt 1010) token (.whole "a") document parsed names rested served offers
  exact ⟨token, document, rfl, parsed, names, rested, served, offers, by decide +kernel, ends.1⟩

/-- A rotated key is not always recovered, also where a refetch is due: behind a document without
any key it stays unknown, and the token is refused. -/
theorem rotation_is_missed_when_starved :
    ¬ ∀ (verifier : Verifier) (state : ServiceState) (calls : List Call) (call : Call)
      (token : Signed) (id : String) (document : Json), state.keys.memory = .empty →
      Signed.parse call.text = .ok token → token.keyId = some (.whole id) →
      verifier.Rested state calls call.reading →
      (verifier.afterAll state calls).keys.endpoint.nextAnswer.document = .ok document →
      Offers document (.whole id) →
      (∃ key, ((verifier.afterAll state calls).keys.find verifier.policy call.reading
        token.keyId).1.found = .ok (some key)) ∨
      ((verifier.verify call.ambient call.text).run (verifier.afterAll state calls)).result ≠
        .error keysMissing := by
  intro recovers
  obtain ⟨token, parsed, names⟩ : ∃ token, Signed.parse (unsignedAt 1010).text = .ok token ∧
      token.keyId = some (.whole "a") := exists_parse (by decide +kernel)
  obtain ⟨document, served, offers⟩ : ∃ document,
      ((ofIssuer "i").afterAll starved [unsignedAt 1000]).keys.endpoint.nextAnswer.document =
        .ok document ∧ Offers document (.whole "a") := exists_offered (by decide +kernel)
  have starves : (((ofIssuer "i").afterAll starved [unsignedAt 1000]).keys.find
      (ofIssuer "i").policy (unsignedAt 1010).reading (some (.whole "a"))).1.problem? =
        some .noKeys := by
    decide +kernel
  have missing := KeySource.found_of_problem? starves
  rw [← names] at missing
  rcases recovers (ofIssuer "i") starved [unsignedAt 1000] (unsignedAt 1010) token "a" document rfl
    parsed names (by decide +kernel) served offers with ⟨key, found⟩ | unblamed
  · rw [found] at missing
    cases missing
  · refine unblamed ?_
    have judged := (ofIssuer "i").run_verify_of_parsed (unsignedAt 1010).ambient
      ((ofIssuer "i").afterAll starved [unsignedAt 1000]) parsed
    exact judged.trans (congrArg (Verifier.judge _ _ token) missing)

end Verifier

end TenantAccess.Token

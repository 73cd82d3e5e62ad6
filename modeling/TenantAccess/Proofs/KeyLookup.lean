import TenantAccess.Proofs.Results
import TenantAccess.Token.KeySource

set_option autoImplicit false

namespace TenantAccess.Token

/-- A published document that lists something that cannot be read as a key. -/
def Unlistable (document : Json) (fault : Fault) : Prop :=
  ∃ members entries, document = .object members ∧
    Table.lookup? "keys" members = some (.array entries) ∧
    ∃ entry ∈ entries, readEntry entry = .error fault

/-- An answer with a body that is no JSON, or one that lists something that is no key. -/
inductive Answer.Unusable : Answer → Fault → Prop
  | unreadable {body : String} {error : Json.BytesError}
      (broken : Json.parseBytes (Text.Utf8.encode body) = .error error) :
      Unusable (.body body) (.ofBytes error)
  | unlistable {body : String} {document : Json} {fault : Fault}
      (read : Json.parseBytes (Text.Utf8.encode body) = .ok document)
      (unlistable : Unlistable document fault) : Unusable (.body body) fault

/-- What a look-up of keys can run into: a document is kept for longer than any number, what is kept
lists something that is no key, or one of the next two answers cannot be used. -/
inductive KeySource.Defect (source : KeySource) (policy : KeyPolicy) : Fault → Prop
  | endless {kept : Kept} (held : source.memory.kept = some kept)
      (endless : policy.lifespan.toRat? = none) :
      Defect source policy (.tooLarge "int too large to convert to float")
  | kept {kept : Kept} {fault : Fault} (held : source.memory.kept = some kept)
      (unlistable : Unlistable kept.document fault) : Defect source policy fault
  | answered {later : Nat} {fault : Fault} (soon : later < 2)
      (unusable : (source.endpoint.answer (source.endpoint.fetches + later)).Unusable fault) :
      Defect source policy fault

theorem readEntries_eq_error {entries : List Json} {fault : Fault}
    (failed : readEntries entries = .error fault) :
    ∃ entry ∈ entries, readEntry entry = .error fault := by
  induction entries with
  | nil => cases failed
  | cons entry rest ih =>
    rw [readEntries, bind_eq_error_iff] at failed
    rcases failed with unreadable | ⟨usable, read, failed⟩
    · exact ⟨entry, List.mem_cons_self, unreadable⟩
    rw [bind_eq_error_iff] at failed
    rcases failed with later | ⟨others, readAll, impossible⟩
    · obtain ⟨other, member, unreadable⟩ := ih later
      exact ⟨other, List.mem_cons_of_mem entry member, unreadable⟩
    · cases impossible

theorem signingKeys_eq_fault {document : Json} {fault : Fault}
    (failed : signingKeys document = .error (.fault fault)) : Unlistable document fault := by
  cases document with
  | object members =>
    unfold signingKeys at failed
    dsimp only at failed
    cases named : Table.lookup? "keys" members with
    | none =>
      rw [named] at failed
      cases failed
    | some keys =>
      rw [named] at failed
      dsimp only [Option.getD_some] at failed
      split at failed
      · cases failed
      split at failed
      · rename_i entries _
        split at failed
        · rename_i own unreadable
          cases failed
          exact ⟨members, entries, rfl, named, readEntries_eq_error unreadable⟩
        · cases failed
        · split at failed <;> cases failed
      · cases failed
  | _ => cases failed

theorem Answer.unusable_of_fault {answer : Answer} {fault : Fault}
    (failed : answer.document.bind signingKeys = .error (.fault fault)) :
    answer.Unusable fault := by
  cases answer with
  | body body =>
    unfold document at failed
    dsimp only at failed
    cases parsed : Json.parseBytes (Text.Utf8.encode body) with
    | error error =>
      rw [parsed] at failed
      cases failed
      exact .unreadable parsed
    | ok document =>
      rw [parsed] at failed
      exact .unlistable parsed (signingKeys_eq_fault failed)
  | _ => cases failed

namespace KeySource

variable {source : KeySource} {policy : KeyPolicy} {now : Rat}

@[simp] theorem freshKeys_result (source : KeySource) (now : Rat) :
    (source.freshKeys now).1 = source.endpoint.nextAnswer.document.bind signingKeys := by
  unfold freshKeys fetch
  cases source.endpoint.nextAnswer.document <;> rfl

theorem freshKeys_endpoint (source : KeySource) (now : Rat) :
    (source.freshKeys now).2.endpoint =
      { source.endpoint with fetches := source.endpoint.fetches + 1 } := by
  unfold freshKeys fetch
  cases source.endpoint.nextAnswer.document <;> rfl

/-- The keys at hand are the kept ones, or those of the next answer. -/
theorem keys_eq_fault {fault : Fault}
    (failed : (source.keys policy now).1 = .error (.fault fault)) : source.Defect policy fault := by
  unfold keys KeyMemory.current at failed
  cases held : source.memory.kept with
  | none =>
    simp only [held, freshKeys_result] at failed
    exact .answered Nat.two_pos (Answer.unusable_of_fault failed)
  | some kept =>
    simp only [held] at failed
    cases lifespan : policy.lifespan.toRat? with
    | none =>
      simp only [lifespan] at failed
      cases failed
      exact .endless held lifespan
    | some span =>
      simp only [lifespan] at failed
      by_cases stale : policy.round (kept.stamp + span) < now
      · simp only [stale, ↓reduceIte, freshKeys_result] at failed
        exact .answered Nat.two_pos (Answer.unusable_of_fault failed)
      · simp only [stale, ↓reduceIte] at failed
        exact .kept held (signingKeys_eq_fault failed)

/-- Looking at the keys at hand asks the endpoint once at most. -/
theorem keys_endpoint (source : KeySource) (policy : KeyPolicy) (now : Rat) :
    ∃ later < 2, (source.keys policy now).2.endpoint.nextAnswer =
      source.endpoint.answer (source.endpoint.fetches + later) := by
  unfold keys
  cases source.memory.current policy now with
  | error fault => exact ⟨0, Nat.two_pos, rfl⟩
  | ok document? =>
    cases document? with
    | some document => exact ⟨0, Nat.two_pos, rfl⟩
    | none =>
      refine ⟨1, Nat.one_lt_two, ?_⟩
      rw [freshKeys_endpoint]
      rfl

theorem keys_of_forgotten (forgotten : source.memory.kept = none) :
    source.keys policy now = source.freshKeys now := by
  unfold keys KeyMemory.current
  rw [forgotten]

theorem find_of_keys_error {id : Option Text.Wide} {failure : LookupFailure}
    (failed : (source.keys policy now).1 = .error failure) :
    (source.find policy now id).1.found = .error failure := by
  unfold find
  cases first : source.keys policy now with
  | mk result after =>
    rw [first] at failed
    cases failed
    rfl

theorem find_eq_fault {id : Option Text.Wide} {fault : Fault}
    (failed : (source.find policy now id).1.found = .error (.fault fault)) :
    source.Defect policy fault := by
  obtain ⟨later, soon, next⟩ := source.keys_endpoint policy now
  unfold find at failed
  cases first : source.keys policy now with
  | mk result after =>
    rw [first] at next failed
    cases result with
    | error failure =>
      cases failed
      exact keys_eq_fault (congrArg Prod.fst first)
    | ok keys =>
      dsimp only at next failed
      cases matched : matchKey? keys id with
      | some key =>
        rw [matched] at failed
        cases failed
      | none =>
        rw [matched] at failed
        dsimp only at failed
        split at failed
        -- The refresh asks once more; whether that is the first question or the second depends on
        -- where the keys at hand came from.
        · rw [map_eq_error_iff, freshKeys_result] at failed
          exact .answered soon (next ▸ Answer.unusable_of_fault failed)
        · cases failed

end KeySource

end TenantAccess.Token

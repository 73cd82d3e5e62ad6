import Mathlib.Data.List.Induction
import TenantAccess.Proofs.Verification

set_option autoImplicit false

namespace TenantAccess.Token

namespace KeySource

def noted (source : KeySource) (now : Rat) : KeySource :=
  { source with memory := source.memory.noteRefresh now }

/-- How a look-up ends, with what it finds and the source that it leaves. -/
inductive Ending (source : KeySource) (policy : KeyPolicy) (now : Rat) (id : Option Text.Wide) :
    Lookup × KeySource → Prop
  | keyless {failure : LookupFailure} (failed : (source.keys policy now).1 = .error failure) :
      Ending source policy now id (⟨.error failure, false⟩, (source.keys policy now).2)
  | matched {keys : List Key} {key : Key} (listed : (source.keys policy now).1 = .ok keys)
      (matched : matchKey? keys id = some key) :
      Ending source policy now id (⟨.ok (some key), false⟩, (source.keys policy now).2)
  | refreshed {keys : List Key} (listed : (source.keys policy now).1 = .ok keys)
      (unmatched : matchKey? keys id = none)
      (due : (source.keys policy now).2.memory.mayRefresh policy now = true) :
      Ending source policy now id
        (⟨(((source.keys policy now).2.noted now).freshKeys now).1.map (matchKey? · id), true⟩,
          (((source.keys policy now).2.noted now).freshKeys now).2)
  | spared {keys : List Key} (listed : (source.keys policy now).1 = .ok keys)
      (unmatched : matchKey? keys id = none)
      (early : (source.keys policy now).2.memory.mayRefresh policy now = false) :
      Ending source policy now id (⟨.ok none, false⟩, (source.keys policy now).2)

theorem find_ends (source : KeySource) (policy : KeyPolicy) (now : Rat) (id : Option Text.Wide) :
    source.Ending policy now id (source.find policy now id) := by
  unfold find
  cases first : source.keys policy now with
  | mk result after =>
    have left : (source.keys policy now).2 = after := congrArg Prod.snd first
    subst left
    cases result with
    | error failure => exact .keyless (congrArg Prod.fst first)
    | ok keys =>
      have listed : (source.keys policy now).1 = .ok keys := congrArg Prod.fst first
      dsimp only
      cases matched : matchKey? keys id with
      | some key => exact .matched listed matched
      | none =>
        dsimp only
        split
        · rename_i due
          exact .refreshed listed matched due
        · rename_i early
          exact .spared listed matched (Bool.eq_false_iff.mpr early)

/-- The documents among the answers to the fetches between two states of a source. -/
def Brings (before after : KeySource) (document : Json) : Prop :=
  ∃ index, before.endpoint.fetches ≤ index ∧ index < after.endpoint.fetches ∧
    (before.endpoint.answer index).document = .ok document

/-- What a source can become at a time: it asks its endpoint some more, and what it keeps it kept
before or was brought. -/
structure Evolves (before : KeySource) (now : Rat) (after : KeySource) : Prop where
  answer : after.endpoint.answer = before.endpoint.answer
  fetches : before.endpoint.fetches ≤ after.endpoint.fetches
  kept : ∀ kept, after.memory.kept = some kept →
    before.memory.kept = some kept ∨ kept.stamp = now ∧ before.Brings after kept.document

variable {before middle after : KeySource} {policy : KeyPolicy} {now : Rat} {document : Json}

theorem Evolves.brings_later (first : before.Evolves now middle)
    (brought : middle.Brings after document) : before.Brings after document := by
  obtain ⟨index, least, bound, read⟩ := brought
  have same := first.answer
  refine ⟨index, Nat.le_trans first.fetches least, bound, ?_⟩
  rwa [← same]

theorem Evolves.brings_earlier (second : middle.Evolves now after)
    (brought : before.Brings middle document) : before.Brings after document := by
  obtain ⟨index, least, bound, read⟩ := brought
  exact ⟨index, least, Nat.lt_of_lt_of_le bound second.fetches, read⟩

theorem Evolves.refl (source : KeySource) (now : Rat) : source.Evolves now source :=
  ⟨rfl, Nat.le_refl _, fun _ held => Or.inl held⟩

theorem Evolves.trans (first : before.Evolves now middle) (second : middle.Evolves now after) :
    before.Evolves now after := by
  refine ⟨second.answer.trans first.answer, Nat.le_trans first.fetches second.fetches, ?_⟩
  intro kept held
  rcases second.kept kept held with heldBefore | ⟨stamped, brought⟩
  · rcases first.kept kept heldBefore with earliest | ⟨stamped, brought⟩
    · exact Or.inl earliest
    · exact Or.inr ⟨stamped, second.brings_earlier brought⟩
  · exact Or.inr ⟨stamped, first.brings_later brought⟩

theorem noted_evolves (source : KeySource) (now : Rat) : source.Evolves now (source.noted now) :=
  ⟨rfl, Nat.le_refl _, fun _ held => Or.inl held⟩

theorem freshKeys_memory (source : KeySource) (now : Rat) :
    (source.freshKeys now).2.memory = source.memory ∨ ∃ document,
      source.endpoint.nextAnswer.document = .ok document ∧
      (source.freshKeys now).2.memory = source.memory.keep document now := by
  unfold freshKeys fetch
  cases answered : source.endpoint.nextAnswer.document with
  | ok document => exact Or.inr ⟨document, rfl, rfl⟩
  | error failure => exact Or.inl rfl

theorem brings_freshKeys (source : KeySource) (now : Rat)
    (answered : source.endpoint.nextAnswer.document = .ok document) :
    source.Brings (source.freshKeys now).2 document := by
  refine ⟨source.endpoint.fetches, Nat.le_refl _, ?_, answered⟩
  rw [freshKeys_endpoint]
  exact Nat.lt_succ_self _

theorem keep_kept (memory : KeyMemory) (document : Json) (now : Rat) {kept : Kept}
    (held : (memory.keep document now).kept = some kept) : kept = ⟨document, now⟩ := by
  unfold KeyMemory.keep at held
  split at held
  · cases held
  · exact (Option.some.inj held).symm

theorem freshKeys_evolves (source : KeySource) (now : Rat) :
    source.Evolves now (source.freshKeys now).2 := by
  refine ⟨?_, ?_, fun kept held => ?_⟩
  · rw [freshKeys_endpoint]
  · rw [freshKeys_endpoint]
    exact Nat.le_succ _
  · rcases source.freshKeys_memory now with same | ⟨document, answered, keeps⟩
    · rw [same] at held
      exact Or.inl held
    · rw [keeps] at held
      obtain rfl := keep_kept source.memory document now held
      exact Or.inr ⟨rfl, source.brings_freshKeys now answered⟩

theorem keys_evolves (source : KeySource) (policy : KeyPolicy) (now : Rat) :
    source.Evolves now (source.keys policy now).2 := by
  unfold keys
  split
  · exact .refl source now
  · exact .refl source now
  · exact source.freshKeys_evolves now

theorem find_evolves (source : KeySource) (policy : KeyPolicy) (now : Rat) (id : Option Text.Wide) :
    source.Evolves now (source.find policy now id).2 := by
  have first := source.keys_evolves policy now
  have ends := source.find_ends policy now id
  generalize source.find policy now id = found at ends ⊢
  cases ends with
  | keyless | matched | spared => exact first
  | refreshed =>
    have noted := (source.keys policy now).2.noted_evolves now
    exact first.trans (noted.trans (freshKeys_evolves _ now))

end KeySource

/-- A text that is given to a verifier, with the surroundings. -/
structure Call where
  ambient : Ambient
  text : String

def Call.reading (call : Call) : Rat := call.ambient.clock.reading

namespace Verifier

def after (verifier : Verifier) (state : ServiceState) (call : Call) : ServiceState :=
  ((verifier.verify call.ambient call.text).run state).state

def afterAll (verifier : Verifier) (state : ServiceState) (calls : List Call) : ServiceState :=
  calls.foldl verifier.after state

variable (verifier : Verifier) (state : ServiceState) (calls : List Call) (call : Call)

theorem afterAll_concat :
    verifier.afterAll state (calls ++ [call]) =
      verifier.after (verifier.afterAll state calls) call := by
  rw [afterAll, List.foldl_append]
  rfl

theorem keeps_settle {View : Type} {look : ServiceState → View} (ambient : Ambient)
    (token : Signed) (lookup : KeySource.Lookup) :
    (verifier.settle ambient token lookup).Keeps look := by
  unfold settle
  rcases lookup with ⟨(problem | fault) | (_ | key), refreshed⟩
  · exact (Action.keeps_signal _).bind fun _ => Action.keeps_refuse _
  · exact Action.keeps_failed fault
  · exact Action.keeps_refuse _
  · exact Action.keeps_ofExcept _

theorem after_of_unparsed {failure : Failure} (unparsed : Signed.parse call.text = .error failure) :
    verifier.after state call = state := by
  unfold after verify
  rw [unparsed]
  rfl

/-- The keys after a verification are those that the look-up of the token's key leaves. -/
theorem after_keys_of_parsed {token : Signed} (parsed : Signed.parse call.text = .ok token) :
    (verifier.after state call).keys =
      (state.keys.find verifier.policy call.reading token.keyId).2 := by
  have looked : ((verifier.lookup call.ambient token.keyId).run state).result =
      .ok (state.keys.find verifier.policy call.reading token.keyId).1 := rfl
  unfold after verify
  simp only [parsed, Action.bind_eq_bind, Action.run_bind_of_ok _ _ _ _ looked]
  simp only [Action.run_bind, Action.run_attempt, ServiceAction.run_finish, Action.run_ofExcept]
  have kept : (verifier.settle call.ambient token
      (state.keys.find verifier.policy call.reading token.keyId).1).Keeps ServiceState.keys :=
    verifier.keeps_settle call.ambient token _
  exact kept _

theorem after_evolves : state.keys.Evolves call.reading (verifier.after state call).keys := by
  cases parsed : Signed.parse call.text with
  | error failure =>
    rw [verifier.after_of_unparsed state call parsed]
    exact .refl state.keys call.reading
  | ok token =>
    rw [verifier.after_keys_of_parsed state call parsed]
    exact state.keys.find_evolves verifier.policy call.reading token.keyId

/-- A document that the endpoint answered with during a call of a run. -/
def BroughtDuring (calls : List Call) (call : Call) (document : Json) : Prop :=
  ∃ earlier later, calls = earlier ++ call :: later ∧
    (verifier.afterAll state earlier).keys.Brings
      (verifier.afterAll state (earlier ++ [call])).keys document

variable {verifier state calls call} in
theorem BroughtDuring.concat {past : Call} {document : Json}
    (brought : verifier.BroughtDuring state calls past document) :
    verifier.BroughtDuring state (calls ++ [call]) past document := by
  obtain ⟨earlier, later, rfl, brings⟩ := brought
  refine ⟨earlier, later ++ [call], ?_, brings⟩
  rw [List.append_assoc, List.cons_append]

/-- A verifier that starts with nothing keeps only what was brought at the time it is kept under. -/
theorem kept_was_brought (fresh : state.keys.memory = .empty) (calls : List Call) {kept : Kept}
    (held : (verifier.afterAll state calls).keys.memory.kept = some kept) :
    ∃ past, kept.stamp = past.reading ∧
      verifier.BroughtDuring state calls past kept.document := by
  induction calls using List.reverseRecOn with
  | nil =>
    have nothing : (none : Option Kept) = some kept := by
      rw [← held, afterAll, List.foldl_nil, fresh]
      rfl
    cases nothing
  | append_singleton calls call ih =>
    rw [afterAll_concat] at held
    rcases (verifier.after_evolves (verifier.afterAll state calls) call).kept kept held with
      before | ⟨stamped, brought⟩
    · obtain ⟨past, stamped, during⟩ := ih before
      exact ⟨past, stamped, during.concat⟩
    · refine ⟨call, stamped, calls, [], rfl, ?_⟩
      rwa [afterAll_concat]

end Verifier

/-- A text that is given to a verifier in 1970, at a reading of the steady clock. -/
def Call.ofText (text : String) (reading : Rat) : Call where
  ambient := ⟨{}, ⟨0, reading⟩, sha256Signatures, none, ⟨BitVec.ofNat 128, BitVec.ofNat 128⟩⟩
  text := text

def Verifier.ofIssuer (issuer : String) : Verifier := ⟨issuer, ["HS256"], keyPolicy {}⟩

def Answer.oneKey : Answer :=
  .body "\x7b\"keys\": [\x7b\"kty\": \"oct\", \"kid\": \"a\", \"k\": \"AA\"\x7d]\x7d"

end TenantAccess.Token

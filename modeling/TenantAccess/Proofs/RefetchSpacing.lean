import Mathlib.Algebra.Order.Ring.Rat
import Mathlib.Data.List.Pairwise
import TenantAccess.Proofs.KeyHistory

set_option autoImplicit false

namespace TenantAccess

theorem Binary64.exceeds_of_le {number : Binary64} {value lesser : Rat} (le : lesser ≤ value)
    (exceeds : number.exceeds value = true) : number.exceeds lesser = true := by
  unfold Binary64.exceeds at exceeds ⊢
  cases exact : number.toRat? with
  | none =>
    rw [exact] at exceeds
    exact exceeds
  | some bound =>
    rw [exact] at exceeds
    have above : value < bound := of_decide_eq_true exceeds
    exact decide_eq_true (lt_of_le_of_lt le above)

namespace Token

namespace KeySource

variable (source : KeySource) (policy : KeyPolicy) (now : Rat) (id : Option Text.Wide)

/-- How many fetches a look-up begins with: one if no document is kept, or it is too old. -/
def opening : Nat :=
  match source.memory.current policy now with
  | .ok none => 1
  | _ => 0

theorem opening_le_one : source.opening policy now ≤ 1 := by
  unfold opening
  split <;> omega

variable {source policy now} in
theorem opening_of_current {document : Json}
    (current : source.memory.current policy now = .ok (some document)) :
    source.opening policy now = 0 := by
  rw [opening, current]

theorem keep_lastRefresh (memory : KeyMemory) (document : Json) :
    (memory.keep document now).lastRefresh = memory.lastRefresh := by
  cases document <;> rfl

theorem freshKeys_lastRefresh :
    (source.freshKeys now).2.memory.lastRefresh = source.memory.lastRefresh := by
  rcases source.freshKeys_memory now with same | ⟨document, -, keeps⟩
  · rw [same]
  · rw [keeps, keep_lastRefresh]

theorem keys_lastRefresh :
    (source.keys policy now).2.memory.lastRefresh = source.memory.lastRefresh := by
  unfold keys
  split
  · rfl
  · rfl
  · exact source.freshKeys_lastRefresh now

theorem keys_fetches :
    (source.keys policy now).2.endpoint.fetches =
      source.endpoint.fetches + source.opening policy now := by
  unfold keys opening
  cases source.memory.current policy now with
  | error fault => rfl
  | ok document? =>
    cases document? with
    | some document => rfl
    | none =>
      dsimp only
      rw [freshKeys_endpoint]

/-- A refresh is fetched after the keys at hand were looked at. -/
theorem find_fetches :
    (source.find policy now id).2.endpoint.fetches =
      source.endpoint.fetches + source.opening policy now +
        (source.find policy now id).1.refreshed.toNat := by
  have first := source.keys_fetches policy now
  have ends := source.find_ends policy now id
  generalize source.find policy now id = found at ends ⊢
  cases ends with
  | keyless | matched | spared => exact first
  | refreshed =>
    rw [freshKeys_endpoint]
    exact congrArg (· + 1) first

theorem find_lastRefresh :
    (source.find policy now id).2.memory.lastRefresh =
      if (source.find policy now id).1.refreshed then some now else source.memory.lastRefresh := by
  have first := source.keys_lastRefresh policy now
  have ends := source.find_ends policy now id
  generalize source.find policy now id = found at ends ⊢
  cases ends with
  | keyless | matched | spared => exact first
  | refreshed => exact freshKeys_lastRefresh _ now

theorem mayRefresh_congr {memory other : KeyMemory}
    (same : memory.lastRefresh = other.lastRefresh) :
    memory.mayRefresh policy now = other.mayRefresh policy now := by
  unfold KeyMemory.mayRefresh
  rw [same]

theorem mayRefresh_of_refreshed (refreshed : (source.find policy now id).1.refreshed = true) :
    source.memory.mayRefresh policy now = true := by
  have ends := source.find_ends policy now id
  generalize source.find policy now id = found at ends refreshed
  cases ends with
  | keyless | matched | spared => cases refreshed
  | refreshed _ _ due =>
    rw [← due]
    exact mayRefresh_congr policy now (source.keys_lastRefresh policy now).symm

end KeySource

namespace Verifier

variable (verifier : Verifier) (state : ServiceState) (calls : List Call) (call : Call)

/-- Whether a verification fetches keys again after it looked at those at hand. -/
def refetches : Bool :=
  match Signed.parse call.text with
  | .ok token => (state.keys.find verifier.policy call.reading token.keyId).1.refreshed
  | .error _ => false

/-- The times at which the calls of a run fetch keys again. -/
def refetchTimes : List Call → ServiceState → List Rat
  | [], _ => []
  | call :: rest, state =>
    (if verifier.refetches state call then [call.reading] else []) ++
      refetchTimes rest (verifier.after state call)

theorem refetchTimes_concat :
    verifier.refetchTimes (calls ++ [call]) state =
      verifier.refetchTimes calls state ++
        if verifier.refetches (verifier.afterAll state calls) call then [call.reading] else [] := by
  induction calls generalizing state with
  | nil =>
    simp only [List.nil_append, refetchTimes, List.append_nil]
    rfl
  | cons first rest ih =>
    rw [List.cons_append, refetchTimes, ih, refetchTimes, List.append_assoc]
    rfl

theorem refetchTimes_sublist :
    (verifier.refetchTimes calls state).Sublist (calls.map Call.reading) := by
  induction calls generalizing state with
  | nil => exact .slnil
  | cons call rest ih =>
    rw [refetchTimes, List.map_cons]
    split
    · exact (ih _).cons_cons call.reading
    · exact (ih _).cons call.reading

theorem after_lastRefresh :
    (verifier.after state call).keys.memory.lastRefresh =
      if verifier.refetches state call then some call.reading
      else state.keys.memory.lastRefresh := by
  unfold refetches
  cases parsed : Signed.parse call.text with
  | error failure =>
    rw [verifier.after_of_unparsed state call parsed]
    rfl
  | ok token =>
    rw [verifier.after_keys_of_parsed state call parsed]
    exact state.keys.find_lastRefresh verifier.policy call.reading token.keyId

/-- A verifier that starts with nothing remembers the last of its refetches. -/
theorem afterAll_lastRefresh (fresh : state.keys.memory = .empty) :
    (verifier.afterAll state calls).keys.memory.lastRefresh =
      (verifier.refetchTimes calls state).getLast? := by
  induction calls using List.reverseRecOn with
  | nil =>
    rw [afterAll, List.foldl_nil, fresh]
    rfl
  | append_singleton calls call ih =>
    rw [afterAll_concat, after_lastRefresh, refetchTimes_concat]
    split
    · rw [List.getLast?_concat]
    · rw [List.append_nil, ih]

/-- A refetch comes a cooldown after the last one, as the clock measures it. -/
theorem exceeds_of_refetches {last : Rat} (refetched : verifier.refetches state call = true)
    (remembered : state.keys.memory.lastRefresh = some last) :
    verifier.policy.cooldown.exceeds (verifier.policy.round (call.reading - last)) = false := by
  unfold refetches at refetched
  cases parsed : Signed.parse call.text with
  | error failure =>
    rw [parsed] at refetched
    cases refetched
  | ok token =>
    rw [parsed] at refetched
    have due :=
      state.keys.mayRefresh_of_refreshed verifier.policy call.reading token.keyId refetched
    unfold KeyMemory.mayRefresh at due
    rw [remembered] at due
    simpa using due

/-- How many fetches a verification begins with. A text that is no token needs no key. -/
def opening : Nat :=
  match Signed.parse call.text with
  | .ok _ => state.keys.opening verifier.policy call.reading
  | .error _ => 0

theorem opening_le_one : verifier.opening state call ≤ 1 := by
  unfold opening
  split
  · exact state.keys.opening_le_one verifier.policy call.reading
  · exact Nat.zero_le 1

theorem after_fetches :
    (verifier.after state call).keys.endpoint.fetches =
      state.keys.endpoint.fetches + verifier.opening state call +
        (verifier.refetches state call).toNat := by
  unfold opening refetches
  cases parsed : Signed.parse call.text with
  | error failure =>
    rw [verifier.after_of_unparsed state call parsed]
    rfl
  | ok token =>
    rw [verifier.after_keys_of_parsed state call parsed]
    exact state.keys.find_fetches verifier.policy call.reading token.keyId

/-- Differences of the times of some calls are what the clock measures. -/
def MeasuresExactly (policy : KeyPolicy) (calls : List Call) : Prop :=
  ∀ earlier ∈ calls, ∀ later ∈ calls,
    policy.round (later.reading - earlier.reading) = later.reading - earlier.reading

instance (policy : KeyPolicy) (calls : List Call) : Decidable (MeasuresExactly policy calls) :=
  inferInstanceAs (Decidable (∀ earlier ∈ calls, ∀ later ∈ calls, _ = _))

variable {state calls call}

/-- A refetch after a run comes a cooldown after each of the run, not just after the last. -/
theorem exceeds_of_refetches_after (fresh : state.keys.memory = .empty)
    (ordered : ((calls ++ [call]).map Call.reading).Pairwise (· ≤ ·))
    (exact : MeasuresExactly verifier.policy (calls ++ [call]))
    (refetched : verifier.refetches (verifier.afterAll state calls) call = true) {earlier : Rat}
    (before : earlier ∈ verifier.refetchTimes calls state) :
    verifier.policy.cooldown.exceeds (call.reading - earlier) = false := by
  have sorted : (verifier.refetchTimes calls state).Pairwise (· ≤ ·) := by
    rw [List.map_append] at ordered
    exact (List.pairwise_append.mp ordered).1.sublist (verifier.refetchTimes_sublist state calls)
  have nonempty : verifier.refetchTimes calls state ≠ [] := List.ne_nil_of_mem before
  have latest := sorted.rel_getLast before
  have member := List.getLast_mem nonempty
  have remembered := verifier.afterAll_lastRefresh state calls fresh
  rw [List.getLast?_eq_some_getLast nonempty] at remembered
  generalize (verifier.refetchTimes calls state).getLast nonempty = last at latest member remembered
  obtain ⟨past, among, rfl⟩ :=
    List.mem_map.mp ((verifier.refetchTimes_sublist state calls).subset member)
  have apart := verifier.exceeds_of_refetches _ call refetched remembered
  rw [exact past (List.mem_append_left _ among) call (List.mem_concat_self)] at apart
  refine Bool.eq_false_iff.mpr fun close => ?_
  have closer := Binary64.exceeds_of_le (sub_le_sub_left latest call.reading) close
  rw [apart] at closer
  cases closer

/-- The times at which a run fetches keys again are a cooldown apart. -/
theorem refetchTimes_apart (fresh : state.keys.memory = .empty) (calls : List Call)
    (ordered : (calls.map Call.reading).Pairwise (· ≤ ·))
    (exact : MeasuresExactly verifier.policy calls) :
    (verifier.refetchTimes calls state).Pairwise fun earlier later =>
      verifier.policy.cooldown.exceeds (later - earlier) = false := by
  induction calls using List.reverseRecOn with
  | nil => exact .nil
  | append_singleton calls call ih =>
    have orderedBefore : (calls.map Call.reading).Pairwise (· ≤ ·) := by
      rw [List.map_append] at ordered
      exact (List.pairwise_append.mp ordered).1
    have exactBefore : MeasuresExactly verifier.policy calls := fun earlier first later second =>
      exact earlier (List.mem_append_left _ first) later (List.mem_append_left _ second)
    rw [refetchTimes_concat]
    split
    · rename_i refetched
      refine List.pairwise_append.mpr
        ⟨ih orderedBefore exactBefore, List.pairwise_singleton _ _, ?_⟩
      intro earlier before later atCall
      obtain rfl := List.mem_singleton.mp atCall
      exact verifier.exceeds_of_refetches_after fresh ordered exact refetched before
    · rw [List.append_nil]
      exact ih orderedBefore exactBefore

/-- How a run and one more call fetch keys. -/
structure Spaced (state : ServiceState) (calls : List Call) (call : Call) : Prop where
  /-- No two refetches are closer than the cooldown, failed ones included. -/
  apart : (verifier.refetchTimes (calls ++ [call]) state).Pairwise fun earlier later =>
    verifier.policy.cooldown.exceeds (later - earlier) = false
  /-- A call fetches once for the keys at hand, if need be, and once more if it refetches. -/
  fetches : (verifier.afterAll state (calls ++ [call])).keys.endpoint.fetches =
    (verifier.afterAll state calls).keys.endpoint.fetches +
      verifier.opening (verifier.afterAll state calls) call +
      (verifier.refetches (verifier.afterAll state calls) call).toNat
  fetches_le : (verifier.afterAll state (calls ++ [call])).keys.endpoint.fetches ≤
    (verifier.afterAll state calls).keys.endpoint.fetches + 2
  /-- With a document at hand, a call within the cooldown fetches nothing. -/
  spared : ∀ document last,
    (verifier.afterAll state calls).keys.memory.current verifier.policy call.reading =
      .ok (some document) →
    (verifier.refetchTimes calls state).getLast? = some last →
    verifier.policy.cooldown.exceeds (call.reading - last) = true →
    (verifier.afterAll state (calls ++ [call])).keys.endpoint.fetches =
      (verifier.afterAll state calls).keys.endpoint.fetches

/-- Whatever the tokens and the answers are, refetches are a cooldown apart, a call fetches twice at
most, and none fetches that has a document at hand and comes within the cooldown. -/
theorem refetches_are_spaced (verifier : Verifier) (state : ServiceState)
    (fresh : state.keys.memory = .empty) (calls : List Call) (call : Call)
    (ordered : ((calls ++ [call]).map Call.reading).Pairwise (· ≤ ·))
    (exact : MeasuresExactly verifier.policy (calls ++ [call])) :
    verifier.Spaced state calls call := by
  have fetches := verifier.after_fetches (verifier.afterAll state calls) call
  rw [← afterAll_concat] at fetches
  refine ⟨verifier.refetchTimes_apart fresh _ ordered exact, fetches, ?_, ?_⟩
  · have opening := verifier.opening_le_one (verifier.afterAll state calls) call
    have refetch := (verifier.refetches (verifier.afterAll state calls) call).toNat_le
    omega
  · intro document last current lastRefetch close
    have opening : verifier.opening (verifier.afterAll state calls) call = 0 := by
      unfold Verifier.opening
      split
      · exact KeySource.opening_of_current current
      · rfl
    have idle : verifier.refetches (verifier.afterAll state calls) call = false := by
      refine Bool.eq_false_iff.mpr fun refetched => ?_
      have apart := verifier.exceeds_of_refetches_after fresh ordered exact refetched
        (List.mem_of_getLast? lastRefetch)
      rw [close] at apart
      cases apart
    rw [fetches, opening, idle]
    rfl

/-- A service whose endpoint publishes one key, but cannot be reached for the third fetch. -/
def interrupted : ServiceState := .start fun index =>
  if index = 2 then .unreachable "offline" else .oneKey

def unknownKeyAt : Rat → Call := .ofText "eyJraWQiOiJiIn0.e30."

/-- Three such tokens, the second of them too early for a refetch. -/
def unknownKeyRun : List Call := [1000, 1010, 1030].map unknownKeyAt

theorem unknown_keys_are_spaced :
    interrupted.keys.memory = .empty ∧
    ((unknownKeyRun ++ [unknownKeyAt 1045]).map Call.reading).Pairwise (· ≤ ·) ∧
    MeasuresExactly (ofIssuer "i").policy (unknownKeyRun ++ [unknownKeyAt 1045]) ∧
    (ofIssuer "i").Spaced interrupted unknownKeyRun (unknownKeyAt 1045) := by
  have ordered : ((unknownKeyRun ++ [unknownKeyAt 1045]).map Call.reading).Pairwise (· ≤ ·) := by
    decide +kernel
  have exact : MeasuresExactly (ofIssuer "i").policy (unknownKeyRun ++ [unknownKeyAt 1045]) := by
    decide +kernel
  exact ⟨rfl, ordered, exact,
    refetches_are_spaced (ofIssuer "i") interrupted rfl unknownKeyRun (unknownKeyAt 1045) ordered
      exact⟩

/-- The refetch at 1030 fails, and still the next one has to wait. -/
example :
    (ofIssuer "i").refetchTimes (unknownKeyRun ++ [1045, 1060].map unknownKeyAt) interrupted =
      [1000, 1030, 1060] := by
  decide +kernel

end Verifier

end Token

end TenantAccess

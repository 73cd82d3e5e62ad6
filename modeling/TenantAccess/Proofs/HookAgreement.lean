import TenantAccess.Proofs.RequestCorrelation
import TenantAccess.Proofs.Trimming
import TenantAccess.Proofs.Utf8Decoding
import TenantAccess.Tracing.RequestHook

/- The correlation id that the hook of the tracing records, next to the one that the service adopts
for the same request. The service takes the first value of the header, trims it and replaces it
unless it is well formed; the hook takes the last one as it is, and fails unless its bytes encode a
text. Both come to the same exactly if the last value is the adopted id. -/

set_option autoImplicit false

namespace TenantAccess

/-- A value is found under its name if the name has no other one. -/
theorem Table.lookup?_of_uniform {α : Type} {name : String} {value : α} {table : List (String × α)}
    (present : ∃ entry ∈ table, entry.1 = name)
    (uniform : ∀ entry ∈ table, entry.1 = name → entry.2 = value) :
    lookup? name table = some value := by
  cases found : lookup? name table with
  | none =>
    obtain ⟨entry, member, same⟩ := present
    have absent := (lookup?_eq_none_iff name table).mp found
    exact absurd (List.mem_map.mpr ⟨entry, member, same⟩) absent
  | some other => rw [← uniform (name, other) (mem_of_lookup?_eq_some name other table found) rfl]

namespace Tracing

open Http

def latinText (bytes : List UInt8) : String :=
  String.ofList (bytes.map fun b => Char.ofNat b.toNat)

/-- Headers with values of any bytes, as requests come with them. -/
def received (raw : List (String × List UInt8)) : Headers :=
  ⟨raw.map fun entry => (entry.1, latinText entry.2)⟩

/-- The last value of the correlation header. -/
def lastValue? (raw : List (String × List UInt8)) : Option (List UInt8) :=
  Table.lookup? Correlation.header raw.reverse

theorem toNat_ofNat_byte (b : UInt8) : (Char.ofNat b.toNat).toNat = b.toNat :=
  Text.Utf8.toNat_ofNat (Or.inl (Nat.lt_of_lt_of_le b.toNat_lt (by decide)))

theorem headerBytes_latinText (bytes : List UInt8) : headerBytes (latinText bytes) = bytes := by
  have kept : (fun c : Char => c.toNat.toUInt8) ∘ (fun b : UInt8 => Char.ofNat b.toNat) = id := by
    funext b
    rw [Function.comp_apply, toNat_ofNat_byte]
    exact UInt8.ofNat_toNat
  rw [headerBytes, latinText, String.toList_ofList, List.map_map, kept, List.map_id]

theorem latinText_eq_empty_iff (bytes : List UInt8) : latinText bytes = "" ↔ bytes = [] := by
  rw [latinText, String.ofList_eq_empty_iff, List.map_eq_nil_iff]

theorem lookup?_reverse_received (raw : List (String × List UInt8)) :
    Table.lookup? Correlation.header (received raw).entries.reverse =
      (lastValue? raw).map latinText := by
  rw [received, ← List.map_reverse, Table.lookup?_map, lastValue?]

/-- What the hook makes of headers, by the last value of the correlation header alone. -/
inductive Hooks (raw : List (String × List UInt8)) : Except Fault (Option String) → Prop where
  | silent (blank : ∀ bytes, lastValue? raw = some bytes → bytes = []) : Hooks raw (.ok none)
  | records (text : String) (visible : text ≠ "")
    (last : lastValue? raw = some (Text.Utf8.encode text)) : Hooks raw (.ok (some text))
  | fails (error : Text.DecodeError) (bytes : List UInt8) (last : lastValue? raw = some bytes)
    (unreadable : ∀ text, Text.Utf8.encode text ≠ bytes) : Hooks raw (.error (.undecodable error))

theorem hooks_received (raw : List (String × List UInt8)) :
    Hooks raw (hookedId (received raw).entries) := by
  rw [hookedId, lookup?_reverse_received]
  cases last : lastValue? raw with
  | none => exact .silent fun bytes found => nomatch last.symm.trans found
  | some bytes =>
    rw [Option.map_some]
    dsimp only
    by_cases empty : bytes = []
    · subst empty
      exact .silent fun bytes found => (Option.some.inj (last.symm.trans found)).symm
    · rw [if_neg ((latinText_eq_empty_iff bytes).not.mpr empty), headerBytes_latinText]
      cases decoded : Text.Utf8.decode bytes with
      | error error =>
        refine .fails error bytes last fun text encoded => ?_
        cases decoded.symm.trans ((Text.Utf8.decode_eq_ok_iff bytes text).mpr encoded)
      | ok text =>
        have encoded := (Text.Utf8.decode_eq_ok_iff bytes text).mp decoded
        refine .records text (fun invisible => empty ?_) (encoded ▸ last)
        rw [← encoded, invisible]
        rfl

/-- The hook comes to an id exactly if the last value is the id. -/
theorem Hooks.eq_some_iff {raw : List (String × List UInt8)} {hooked : Except Fault (Option String)}
    (hooks : Hooks raw hooked) {id : String} (visible : id ≠ "") :
    hooked = .ok (some id) ↔ lastValue? raw = some (Text.Utf8.encode id) := by
  cases hooks with
  | silent blank =>
    refine ⟨nofun, fun last => ?_⟩
    exact absurd ((Text.Utf8.encode_eq_nil_iff id).mp (blank _ last)) visible
  | records text _ last =>
    rw [last, Except.ok.injEq, Option.some.injEq, Option.some.injEq, Text.Utf8.encode_inj]
  | fails error bytes last unreadable =>
    refine ⟨nofun, fun same => ?_⟩
    exact absurd (Option.some.inj (same.symm.trans last)) (unreadable id)

theorem visible_of_isIdLetter {c : Char} (letter : Correlation.IsIdLetter c) :
    45 ≤ c.toNat ∧ c.toNat ≤ 122 := by
  unfold Correlation.IsIdLetter at letter
  simp only [Char.le_def, UInt32.le_iff_toNat_le, List.mem_cons, List.not_mem_nil, or_false]
    at letter
  change 65 ≤ c.toNat ∧ c.toNat ≤ 90 ∨ 97 ≤ c.toNat ∧ c.toNat ≤ 122 ∨
    48 ≤ c.toNat ∧ c.toNat ≤ 57 ∨ _ at letter
  rcases letter with capital | small | digit | rfl | rfl | rfl | rfl
  · omega
  · omega
  · omega
  all_goals decide

theorem latinText_encode_of_isId {id : String} (wellFormed : Correlation.IsId id) :
    latinText (Text.Utf8.encode id) = id := by
  have ascii : ∀ c ∈ id.toList, c.toNat ≤ 0x7F := fun c member =>
    Nat.le_trans (visible_of_isIdLetter (wellFormed.2.2 c member)).2 (by decide)
  have kept : ∀ c ∈ id.toList, Char.ofNat c.toNat.toUInt8.toNat = c := by
    intro c member
    rw [Text.Utf8.toNat_toUInt8 (ascii c member), Char.ofNat_toNat]
  rw [Text.Utf8.encode_of_ascii ascii, latinText, List.map_map, ← String.toList_inj,
    String.toList_ofList]
  exact (List.map_congr_left kept).trans (List.map_id _)

theorem trim_of_isId {id : String} (wellFormed : Correlation.IsId id) : Text.trim id = id := by
  have solid : ∀ c ∈ id.toList, Text.isBlank c = false := by
    intro c member
    have visible := visible_of_isIdLetter (wellFormed.2.2 c member)
    exact Text.not_blank_of_visible (by omega) (by omega)
  rw [← String.toList_inj, Text.toList_trim]
  exact ((Text.trimmed_iff _ _).mp (Text.trimmed_of_solid solid)).symm

section Uniform

variable {raw : List (String × List UInt8)} {value : String}
  (present : ∃ entry ∈ raw, entry.1 = Correlation.header)
  (uniform : ∀ entry ∈ raw, entry.1 = Correlation.header → entry.2 = Text.Utf8.encode value)

include present uniform

theorem lastValue?_of_uniform : lastValue? raw = some (Text.Utf8.encode value) := by
  obtain ⟨entry, member, named⟩ := present
  exact Table.lookup?_of_uniform ⟨entry, List.mem_reverse.mpr member, named⟩
    fun entry member => uniform entry (List.mem_reverse.mp member)

theorem sent_of_uniform (wellFormed : Correlation.IsId value) :
    Correlation.sent (received raw) = value := by
  have first : (received raw).get? Correlation.header = some value := by
    rw [Headers.get?, received, Table.lookup?_map, Table.lookup?_of_uniform present uniform,
      Option.map_some, latinText_encode_of_isId wellFormed]
  rw [Correlation.sent, first, Option.getD_some, trim_of_isId wellFormed]

end Uniform

/-- The id that the service adopts for headers. -/
inductive Adopts (ids : IdSupply) (state : ServiceState) (headers : Headers) : String → Prop where
  | sent (wellFormed : Correlation.IsId (Correlation.sent headers)) :
    Adopts ids state headers (Correlation.sent headers)
  | made (malformed : ¬ Correlation.IsId (Correlation.sent headers)) :
    Adopts ids state headers (ids.correlationId (state.correlationIds + 1)).text

theorem exists_adopts (ids : IdSupply) (state : ServiceState) (headers : Headers) :
    ∃ id, ((Application.adoptId ids headers).run state).result = .ok id ∧
      Adopts ids state headers id := by
  by_cases sent : Correlation.IsId (Correlation.sent headers)
  · exact ⟨_, congrArg Outcome.result (Application.run_adoptId_of_isId ids sent), .sent sent⟩
  · exact ⟨_, congrArg Outcome.result (Application.run_adoptId_of_not_isId ids sent), .made sent⟩

theorem Adopts.isId {ids : IdSupply} {state : ServiceState} {headers : Headers} {id : String}
    (adopts : Adopts ids state headers id) : Correlation.IsId id := by
  cases adopts with
  | sent wellFormed => exact wellFormed
  | made _ => exact Correlation.isId_text _

/-- How what the hook makes of headers relates to the id that the service adopts. -/
structure HookReport (raw : List (String × List UInt8)) (id : String)
    (hooked : Except Fault (Option String)) : Prop where
  hooks : Hooks raw hooked
  agrees : hooked = .ok (some id) ↔ lastValue? raw = some (Text.Utf8.encode id)
  /-- One well-formed value, however often it is repeated, is the id for both. -/
  uniform : ∀ value, Correlation.IsId value →
    (∃ entry ∈ raw, entry.1 = Correlation.header) →
    (∀ entry ∈ raw, entry.1 = Correlation.header → entry.2 = Text.Utf8.encode value) →
    id = value ∧ hooked = .ok (some value)

/-- The hook records the last value of the header, whatever it is, and the service adopts the first
one if that is an id. Both agree exactly if the last value is the adopted id. -/
theorem hook_records_last_value (ids : IdSupply) (raw : List (String × List UInt8))
    (state : ServiceState) :
    ∃ id, ((Application.adoptId ids (received raw)).run state).result = .ok id ∧
      Adopts ids state (received raw) id ∧
      HookReport raw id (hookedId (received raw).entries) := by
  obtain ⟨id, ran, adopts⟩ := exists_adopts ids state (received raw)
  have hooks := hooks_received raw
  have visible (value : String) (wellFormed : Correlation.IsId value) : value ≠ "" := by
    rintro rfl
    exact absurd wellFormed.1 (by decide)
  refine ⟨id, ran, adopts, hooks, hooks.eq_some_iff (visible id adopts.isId), ?_⟩
  intro value wellFormed present uniform
  have sent := sent_of_uniform present uniform wellFormed
  refine ⟨?_, (hooks.eq_some_iff (visible value wellFormed)).mpr
    (lastValue?_of_uniform present uniform)⟩
  cases adopts with
  | sent _ => exact sent
  | made malformed => exact absurd (sent.symm ▸ wellFormed) malformed

/-- A byte that starts no character is the encoding of no text. -/
theorem encode_ne_of_stray (text : String) : Text.Utf8.encode text ≠ [0xFF] := by
  intro encoded
  have decoded := (Text.Utf8.decode_eq_ok_iff [0xFF] text).mpr encoded
  rw [Text.Utf8.decode, Text.Utf8.decodeFrom] at decoded
  cases decoded

/-- A stray byte makes the hook fail, and of two ids it records the other one. -/
theorem hook_disagrees :
    (¬ ∀ raw, (hookedId (received raw).entries).isOk = true) ∧
    ¬ ∀ (ids : IdSupply) (raw : List (String × List UInt8)) (state : ServiceState)
        (id text : String),
      ((Application.adoptId ids (received raw)).run state).result = .ok id →
      hookedId (received raw).entries = .ok (some text) → text = id := by
  constructor
  · intro claimed
    have succeeds := claimed [(Correlation.header, [0xFF])]
    have hooks := hooks_received [(Correlation.header, [0xFF])]
    generalize hookedId (received [(Correlation.header, [0xFF])]).entries = hooked at hooks succeeds
    cases hooks with
    | silent blank => exact absurd (blank [0xFF] rfl) (List.cons_ne_nil _ _)
    | records text _ last => exact encode_ne_of_stray text (Option.some.inj last).symm
    | fails error => cases succeeds
  · intro claimed
    let raw : List (String × List UInt8) :=
      [(Correlation.header, [0x61]), (Correlation.header, [0x62])]
    have first : (received raw).get? Correlation.header = some "a" := rfl
    have incoming : Correlation.incoming? (some "a") = some "a" := by decide
    have adopted : ((Application.adoptId Role.countingAmbient.ids (received raw)).run
        Role.emptyService).result = .ok "a" := by
      rw [Application.adoptId, first, incoming]
      rfl
    have recorded : hookedId (received raw).entries = .ok (some "b") :=
      ((hooks_received raw).eq_some_iff (by decide)).mpr rfl
    exact absurd (claimed _ raw _ "a" "b" adopted recorded) (by decide)

end Tracing

end TenantAccess

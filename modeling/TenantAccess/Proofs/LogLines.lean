import TenantAccess.Log.Record
import TenantAccess.Proofs.JsonAscii
import TenantAccess.Proofs.JsonValues

set_option autoImplicit false

namespace TenantAccess

theorem Table.lookup?_append {α : Type} (name : String) (front back : List (String × α)) :
    Table.lookup? name (front ++ back) =
      (Table.lookup? name front).or (Table.lookup? name back) := by
  induction front with
  | nil => rfl
  | cons entry rest ih =>
    rw [List.cons_append, Table.lookup?_cons, Table.lookup?_cons, ih]
    by_cases same : entry.1 = name
    · rw [if_pos same, if_pos same, Option.some_or]
    · rw [if_neg same, if_neg same]

namespace Json

theorem allMembersStandard_iff (members : List (String × Json)) :
    allMembersStandard members = true ↔ ∀ member ∈ members, isStandard member.2 = true := by
  induction members with
  | nil => simp [allMembersStandard]
  | cons member rest ih =>
    rw [allMembersStandard, Bool.and_eq_true, ih, List.forall_mem_cons]

end Json

namespace Log

open Json (IsLine Legible Readable Style isStandard)

theorem names_writtenFields (fields : List (String × Json)) :
    Table.names (writtenFields fields) =
      Table.names (fields.filter fun field => knownFields.contains field.1) :=
  Table.names_map_values (fun field => cutError field.1 field.2) _

theorem lookup?_writtenFields (fields : List (String × Json)) (name : String) :
    Table.lookup? name (writtenFields fields) =
      if name ∈ knownFields then (Table.lookup? name fields).map (cutError name) else none := by
  induction fields with
  | nil => simp [writtenFields]
  | cons field rest ih =>
    unfold writtenFields at ih ⊢
    rw [List.filter_cons, Table.lookup?_cons]
    by_cases known : knownFields.contains field.1 = true
    · rw [if_pos known, List.map_cons, Table.lookup?_cons, ih]
      by_cases same : field.1 = name
      · subst same
        rw [if_pos rfl, if_pos rfl, if_pos (List.contains_iff_mem.mp known), Option.map_some]
      · rw [if_neg same, if_neg same]
    · rw [if_neg known, ih]
      by_cases same : field.1 = name
      · subst same
        have unknown : field.1 ∉ knownFields := mt List.contains_iff_mem.mpr known
        rw [if_neg unknown, if_neg unknown]
      · rw [if_neg same]

theorem cutError_of_ne {name : String} (other : name ≠ "error") (value : Json) :
    cutError name value = value := by
  unfold cutError
  split
  · exact if_neg other
  · exact if_neg other
  · rfl

theorem cutError_string (text : String) :
    cutError "error" (.string text) = .string (String.ofList (text.toList.take 500)) := by
  rw [cutError, if_pos rfl]
  rfl

theorem cutError_broken (text : Text.Broken) :
    cutError "error" (.brokenString text) =
      .ofText ((Text.Wide.broken text).take 500) := by
  rw [cutError, if_pos rfl]
  rfl

theorem cutError_of_not_text (name : String) {value : Json}
    (other : value.text? = none) : cutError name value = value := by
  unfold cutError
  split
  · cases other
  · cases other
  · rfl

theorem cutError_cases (name : String) (value : Json) :
    cutError name value = value ∨ (∃ text, cutError name value = .string text) ∨
      ∃ text, value = .brokenString text ∧
        cutError name value = .ofText ((Text.Wide.broken text).take 500) := by
  unfold cutError
  split
  · split_ifs
    · exact .inr (.inl ⟨_, rfl⟩)
    · exact .inl rfl
  · split_ifs
    · exact .inr (.inr ⟨_, rfl, rfl⟩)
    · exact .inl rfl
  · exact .inl rfl

variable {trace : Fault → String}

/-- What is written for a record besides its members proper: its known fields, with the text of an
error cut to 500 characters, and its fault. -/
structure FieldsOf (trace : Fault → String) (record : LogRecord)
    (written : List (String × Json)) : Prop where
  distinct : (Table.names written).Nodup
  known (name : String) : name ∈ knownFields → name ≠ "error" →
    Table.lookup? name written = Table.lookup? name record.fields
  errorCut (text : String) : Table.lookup? "error" record.fields = some (.string text) →
    Table.lookup? "error" written = some (.string (String.ofList (text.toList.take 500)))
  brokenErrorCut (text : Text.Broken) :
    Table.lookup? "error" record.fields = some (.brokenString text) →
      Table.lookup? "error" written = some (.ofText ((Text.Wide.broken text).take 500))
  errorKept : (∀ text, Table.lookup? "error" record.fields ≠ some (.ofText text)) →
    Table.lookup? "error" written = Table.lookup? "error" record.fields
  exception : Table.lookup? "exception" written =
    record.fault.map fun fault => .string (trace fault)
  nothingElse (name : String) : name ∉ knownFields → name ≠ "exception" →
    Table.lookup? name written = none

/-- What the object of a record gives back of it. -/
structure GivesBack (trace : Fault → String) (record : LogRecord)
    (members : List (String × Json)) : Prop where
  names : Table.names members = ["ts", "level", "logger", "msg", "correlation_id", "fields"]
  level : Table.lookup? "level" members = some (.string record.level)
  logger : Table.lookup? "logger" members = some (.string record.logger)
  message : Table.lookup? "msg" members = some (.string record.message)
  correlationId : Table.lookup? "correlation_id" members = some record.correlationId
  fields : ∃ written, Table.lookup? "fields" members = some (.object written) ∧
    FieldsOf trace record written

def exceptionField (trace : Fault → String) (record : LogRecord) : List (String × Json) :=
  (record.fault.map fun fault => ("exception", Json.string (trace fault))).toList

def objectFields (trace : Fault → String) (record : LogRecord) : List (String × Json) :=
  writtenFields record.fields ++ exceptionField trace record

theorem lookup?_exceptionField (trace : Fault → String) (record : LogRecord) (name : String) :
    Table.lookup? name (exceptionField trace record) =
      if name = "exception" then record.fault.map fun fault => .string (trace fault)
      else none := by
  unfold exceptionField
  cases record.fault with
  | none => simp
  | some fault => simp [Table.lookup?_cons, eq_comm]

theorem nodup_names_fields (trace : Fault → String) {record : LogRecord}
    (distinct : (Table.names record.fields).Nodup) :
    (Table.names (objectFields trace record)).Nodup := by
  have known : ∀ name ∈ Table.names (writtenFields record.fields), name ∈ knownFields := by
    intro name member
    rw [names_writtenFields] at member
    obtain ⟨field, kept, rfl⟩ := List.mem_map.mp member
    exact List.contains_iff_mem.mp (List.mem_filter.mp kept).2
  have unknown : ∀ name ∈ Table.names (exceptionField trace record), name = "exception" := by
    intro name member
    obtain ⟨field, there, rfl⟩ := List.mem_map.mp member
    obtain ⟨fault, _, rfl⟩ := Option.map_eq_some_iff.mp (Option.mem_toList.mp there)
    rfl
  have single : (Table.names (exceptionField trace record)).Nodup := by
    unfold exceptionField
    cases record.fault with
    | none => exact List.nodup_nil
    | some fault => exact List.nodup_singleton _
  rw [objectFields, Table.names, List.map_append]
  refine List.nodup_append.mpr ⟨?_, single, fun name one other two same => ?_⟩
  · have names := names_writtenFields record.fields
    unfold Table.names at names
    rw [names]
    exact distinct.sublist (List.filter_sublist.map Prod.fst)
  · have exception : "exception" ∉ knownFields := by decide
    exact exception (unknown other two ▸ same ▸ known name one)

theorem lookup?_objectFields (trace : Fault → String) (record : LogRecord) (name : String) :
    Table.lookup? name (objectFields trace record) =
      if name ∈ knownFields then (Table.lookup? name record.fields).map (cutError name)
      else if name = "exception" then record.fault.map fun fault => .string (trace fault)
      else none := by
  have exception : "exception" ∉ knownFields := by decide
  rw [objectFields, Table.lookup?_append, lookup?_writtenFields, lookup?_exceptionField]
  by_cases known : name ∈ knownFields
  · have unexceptional : name ≠ "exception" := fun same => exception (same ▸ known)
    rw [if_pos known, if_pos known, if_neg unexceptional, Option.or_none]
  · rw [if_neg known, if_neg known, Option.none_or]

theorem fieldsOf (trace : Fault → String) {record : LogRecord}
    (distinct : (Table.names record.fields).Nodup) :
    FieldsOf trace record (objectFields trace record) := by
  have error : "error" ∈ knownFields := by decide
  have exception : "exception" ∉ knownFields := by decide
  refine ⟨nodup_names_fields trace distinct, fun name known other => ?_, fun text found => ?_,
    fun text found => ?_, fun unfound => ?_, ?_, fun name unknown other => ?_⟩
  · have kept : cutError name = id := funext (cutError_of_ne other)
    rw [lookup?_objectFields, if_pos known, kept, Option.map_id_fun, id]
  · rw [lookup?_objectFields, if_pos error, found, Option.map_some, cutError_string]
  · rw [lookup?_objectFields, if_pos error, found, Option.map_some, cutError_broken]
  · rw [lookup?_objectFields, if_pos error]
    cases found : Table.lookup? "error" record.fields with
    | none => rfl
    | some value =>
      have other : value.text? = none := by
        refine Option.eq_none_iff_forall_ne_some.mpr fun text same => unfound text ?_
        rw [found, Json.text?_eq_some_iff.mp same]
      rw [Option.map_some, cutError_of_not_text "error" other]
  · rw [lookup?_objectFields, if_neg exception, if_pos rfl]
  · rw [lookup?_objectFields, if_neg unknown, if_neg other]

/-- The members of the object that is written for a record at a time. -/
def members (trace : Fault → String) (now : Time.Instant) (record : LogRecord) :
    List (String × Json) :=
  ("ts", .string (Time.universalText now)) :: body trace record

theorem members_eq (trace : Fault → String) (now : Time.Instant) (record : LogRecord) :
    members trace now record =
      [("ts", .string (Time.universalText now)), ("level", .string record.level),
        ("logger", .string record.logger), ("msg", .string record.message),
        ("correlation_id", record.correlationId),
        ("fields", .object (objectFields trace record))] := rfl

theorem givesBack (trace : Fault → String) (now : Time.Instant) {record : LogRecord}
    (distinct : (Table.names record.fields).Nodup) :
    GivesBack trace record (members trace now record) where
  names := rfl
  level := rfl
  logger := rfl
  message := rfl
  correlationId := rfl
  fields := ⟨_, rfl, fieldsOf trace distinct⟩

/-- A record of JSON values: no name is used twice, and the correlation id and the fields that are
written are values of JSON texts without words in place of numbers. -/
structure IsLoggable (room : Nat) (record : LogRecord) : Prop where
  distinct : (Table.names record.fields).Nodup
  correlationId : Readable (room + 1) record.correlationId ∧ isStandard record.correlationId = true
  fields : ∀ field ∈ record.fields, field.1 ∈ knownFields →
    Readable room field.2 ∧ isStandard field.2 = true

theorem isLine_line (trace : Fault → String) (now : Time.Instant) (record : LogRecord) :
    IsLine (line trace now record).toList := by
  rw [line, Json.render, String.toList_ofList]
  exact Json.isLine_write Style.spacedAscii_withinAscii _

section Written

variable {P : Json → Prop} (strings : ∀ text, P (.string text)) {record : LogRecord}
include strings

/-- What holds of strings, of what strings are cut to and of a record's known fields holds of all
that is written as fields. -/
theorem forall_fields
    (cuts : ∀ text, P (.brokenString text) → P (.ofText ((Text.Wide.broken text).take 500)))
    (own : ∀ field ∈ record.fields, field.1 ∈ knownFields → P field.2) :
    ∀ field ∈ objectFields trace record, P field.2 := by
  intro field member
  rcases List.mem_append.mp member with written | exceptional
  · obtain ⟨source, kept, rfl⟩ := List.mem_map.mp written
    obtain ⟨listed, known⟩ := List.mem_filter.mp kept
    have holds := own source listed (List.contains_iff_mem.mp known)
    rcases cutError_cases source.1 source.2 with same | ⟨text, cut⟩ | ⟨text, broken, cut⟩
    · exact same.symm ▸ holds
    · exact cut.symm ▸ strings text
    · exact cut.symm ▸ cuts text (broken ▸ holds)
  · obtain ⟨fault, _, rfl⟩ := Option.map_eq_some_iff.mp (Option.mem_toList.mp exceptional)
    exact strings (trace fault)

theorem forall_members (now : Time.Instant) (correlationId : P record.correlationId)
    (fields : P (.object (objectFields trace record))) :
    ∀ member ∈ members trace now record, P member.2 := by
  rw [members_eq]
  simp only [List.forall_mem_cons]
  exact ⟨strings _, strings _, strings _, strings _, correlationId, fields, by simp⟩

end Written

namespace IsLoggable

variable {room : Nat} {record : LogRecord} (loggable : IsLoggable room record)
include loggable

theorem legible (trace : Fault → String) (now : Time.Instant) {style : Style}
    (escaped : style.asciiOnly = true) :
    Legible style (room + 2) (.object (members trace now record)) := by
  have names := (givesBack trace now loggable.distinct).names
  have fields : Legible style (room + 1) (.object (objectFields trace record)) :=
    .object (nodup_names_fields trace loggable.distinct)
      (forall_fields .string (fun _ broken => broken.take 500) fun field listed known =>
        (loggable.fields field listed known).1.legible escaped)
  exact .object (by rw [names]; decide)
    (forall_members .string now (loggable.correlationId.1.legible escaped) fields)

theorem isStandard (trace : Fault → String) (now : Time.Instant) :
    Json.isStandard (.object (members trace now record)) = true := by
  have strings (text : String) : Json.isStandard (.string text) = true := by simp [Json.isStandard]
  have fields : Json.isStandard (.object (objectFields trace record)) = true := by
    rw [Json.isStandard, Json.allMembersStandard_iff]
    refine forall_fields (P := fun value => Json.isStandard value = true) strings
      (fun text _ => ?_) fun field listed known => (loggable.fields field listed known).2
    cases (Text.Wide.broken text).take 500 <;> simp [Json.ofText, Json.isStandard]
  rw [Json.isStandard, Json.allMembersStandard_iff]
  exact forall_members (P := fun value => Json.isStandard value = true) strings now
    loggable.correlationId.2 fields

/-- The line of a record is read as its object, in whatever room its values leave. -/
theorem readValue_line (trace : Fault → String) (now : Time.Instant) :
    ∃ fuel, Json.readValue Json.noStrays (room + 2) fuel (line trace now record).toList =
      .ok (.object (members trace now record), []) := by
  have legible : Legible .spacedAscii _ _ := loggable.legible trace now rfl
  have read := legible.readBack Style.spacedAscii_spaced _ [] le_rfl (by simp [Json.Delimited])
  rw [List.append_nil] at read
  exact ⟨_, by rw [line, Json.render, String.toList_ofList]; exact read⟩

theorem parse_line (fits : room + 2 ≤ Json.nestingLimit) (trace : Fault → String)
    (now : Time.Instant) :
    Json.parse (line trace now record) = .ok (.object (members trace now record)) := by
  have legible : Legible .spacedAscii _ _ := loggable.legible trace now rfl
  exact Json.parse_render Style.spacedAscii_spaced (legible.mono fits)

end IsLoggable

/-- Whether two objects of records hold the same, but for the time and whatever the order of the
fields is. -/
structure SameButTime (one other : List (String × Json)) : Prop where
  apart (name : String) : name ≠ "ts" → name ≠ "fields" →
    Table.lookup? name one = Table.lookup? name other
  fields : ∃ mine yours, Table.lookup? "fields" one = some (.object mine) ∧
    Table.lookup? "fields" other = some (.object yours) ∧
      ∀ name, Table.lookup? name mine = Table.lookup? name yours

/-- Neither the time nor the fields are looked at for another member. -/
theorem lookup?_members_of_ne (trace : Fault → String) (now : Time.Instant) (record : LogRecord)
    {name : String} (time : name ≠ "ts") (other : name ≠ "fields") :
    Table.lookup? name (members trace now record) =
      Table.lookup? name [("level", .string record.level), ("logger", .string record.logger),
        ("msg", .string record.message), ("correlation_id", record.correlationId)] := by
  have parts : members trace now record = ("ts", .string (Time.universalText now)) ::
      ([("level", .string record.level), ("logger", .string record.logger),
        ("msg", .string record.message), ("correlation_id", record.correlationId)] ++
          [("fields", .object (objectFields trace record))]) := rfl
  have last (value : Json) : Table.lookup? name [("fields", value)] = none := by
    rw [Table.lookup?_cons, if_neg other.symm, Table.lookup?_nil]
  rw [parts, Table.lookup?_cons, if_neg time.symm, Table.lookup?_append, last, Option.or_none]

theorem sameButTime (trace : Fault → String) (now later : Time.Instant) (record : LogRecord)
    {fields : List (String × Json)}
    (same : ∀ name ∈ knownFields, Table.lookup? name fields = Table.lookup? name record.fields) :
    SameButTime (members trace later { record with fields := fields })
      (members trace now record) where
  apart name time other :=
    (lookup?_members_of_ne trace later _ time other).trans
      (lookup?_members_of_ne trace now record time other).symm
  fields := by
    refine ⟨objectFields trace { record with fields := fields }, objectFields trace record,
      rfl, rfl, fun name => ?_⟩
    rw [lookup?_objectFields, lookup?_objectFields]
    by_cases known : name ∈ knownFields
    · rw [if_pos known, if_pos known, same name known]
    · rw [if_neg known, if_neg known]

theorem body_eq_of_known (trace : Fault → String) (record : LogRecord)
    {fields : List (String × Json)}
    (same : fields.filter (fun field => knownFields.contains field.1) =
      record.fields.filter fun field => knownFields.contains field.1) :
    body trace { record with fields := fields } = body trace record := by
  simp only [body, writtenFields, same]

def failedRequest : LogRecord where
  level := "ERROR"
  logger := "app"
  message := "first line\nsecond \"line\", für 😀"
  correlationId := .null
  fields := [("password", .string "secret"),
    ("duration_ms", .decimal (.finite false 6755399441055744 (-52))),
    ("actions", .array [.string "read", .integer 2])]
  fault := some (.badValue "no such role")

theorem isLoggable_failedRequest : IsLoggable 1 failedRequest := by
  have plain (room : Nat) (value : Json) (plain : Json.IsPlain value) : Readable room value :=
    (Json.readable_iff Style.spacedAscii_spaced rfl _ _).mpr
      (.plain (Json.spells_of_isPlain plain _))
  refine ⟨by decide, ⟨plain 2 .null trivial, by simp [failedRequest, isStandard]⟩, ?_⟩
  intro field member known
  simp only [failedRequest, List.mem_cons, List.not_mem_nil, or_false] at member
  rcases member with rfl | rfl | rfl
  · exact absurd known (by decide)
  · exact ⟨plain 1 _ ⟨by decide, by decide, by decide, .inr (by decide)⟩, by simp [isStandard]⟩
  · refine ⟨(Json.readable_iff Style.spacedAscii_spaced rfl _ _).mpr
        (.array fun item listed => ?_),
      by simp [isStandard, Json.allStandard]⟩
    simp only [List.mem_cons, List.not_mem_nil, or_false] at listed
    rcases listed with rfl | rfl
    · exact .string "read"
    · exact (plain 0 _ (by simp [Json.IsPlain, Text.decimalDigits, Text.digitLimit])).legible rfl

end Log

end TenantAccess

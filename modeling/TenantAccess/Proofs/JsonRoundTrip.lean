import TenantAccess.Permission.Document
import TenantAccess.Proofs.JsonStrings
import TenantAccess.Proofs.PermissionGrants

set_option autoImplicit false

namespace TenantAccess.Json

theorem skipSpace_blanks {blanks : List Char} (blank : ∀ c ∈ blanks, isSpace c = true)
    (rest : List Char) : skipSpace (blanks ++ rest) = skipSpace rest :=
  List.dropWhile_append_of_pos blank

theorem skipSpace_cons {c : Char} (visible : isSpace c = false) (rest : List Char) :
    skipSpace (c :: rest) = c :: rest :=
  List.dropWhile_cons_of_neg (by simp [visible])

def Separates (mark : Char) (separator : List Char) : Prop :=
  ∃ before behind, separator = before ++ mark :: behind ∧
    (∀ c ∈ before, isSpace c = true) ∧ ∀ c ∈ behind, isSpace c = true

theorem skipSpace_separator {mark : Char} {separator : List Char}
    (separates : Separates mark separator) (visible : isSpace mark = false) (rest : List Char) :
    ∃ behind, skipSpace (separator ++ rest) = mark :: behind ∧
      skipSpace behind = skipSpace rest := by
  obtain ⟨before, behind, rfl, blankBefore, blankBehind⟩ := separates
  refine ⟨behind ++ rest, ?_, skipSpace_blanks blankBehind rest⟩
  rw [List.append_assoc, skipSpace_blanks blankBefore, List.cons_append, skipSpace_cons visible]

theorem Separates.length_pos {mark : Char} {separator : List Char}
    (separates : Separates mark separator) : 0 < separator.length := by
  obtain ⟨before, behind, rfl, _⟩ := separates
  simp only [List.length_append, List.length_cons]
  omega

/-- Whether a text can stand behind a value. -/
def Delimited (rest : List Char) : Prop :=
  ∀ c, rest.head? = some c → isSpace c = true ∨ c = ',' ∨ c = ']' ∨ c = '}'

theorem Separates.delimited {separator : List Char} (separates : Separates ',' separator)
    (rest : List Char) : Delimited (separator ++ rest) := by
  obtain ⟨before, behind, rfl, blank, _⟩ := separates
  intro c head
  cases before with
  | nil =>
    cases head
    exact .inr (.inl rfl)
  | cons first more =>
    cases head
    exact .inl (blank _ List.mem_cons_self)

/-- Items are parted by commas and names followed by colons, with any blanks around them. -/
structure Style.Spaced (style : Style) : Prop where
  item : Separates ',' style.itemSeparator
  name : Separates ':' style.nameSeparator

theorem Style.compact_spaced : Style.compact.Spaced where
  item := ⟨[], [], rfl, by simp, by simp⟩
  name := ⟨[], [], rfl, by simp, by simp⟩

theorem Style.spacedAscii_spaced : Style.spacedAscii.Spaced where
  item := ⟨[], [' '], rfl, by simp, by simp [isSpace]⟩
  name := ⟨[], [' '], rfl, by simp, by simp [isSpace]⟩

/-- The text is that of one word or number, wherever a value ends. -/
structure Spells (cs : List Char) (value : Json) : Prop where
  start : ∃ first more, cs = first :: more ∧ (first.isAlphanum = true ∨ first = '-')
  read (rest : List Char) : Delimited rest → scalar (cs ++ rest) = .ok (value, rest)

/-- The values that are read back from their texts with some room for nesting. -/
inductive Legible (style : Style) : Nat → Json → Prop where
  | plain {room : Nat} {value : Json} (spelled : Spells (write style value) value) :
    Legible style room value
  | string {room : Nat} (s : String) : Legible style room (.string s)
  | broken {room : Nat} (escaped : style.asciiOnly = true) (text : Text.Broken)
    (apart : Apart text.points) : Legible style room (.brokenString text)
  | array {room : Nat} {items : List Json} (legible : ∀ item ∈ items, Legible style room item) :
    Legible style (room + 1) (.array items)
  | object {room : Nat} {members : List (String × Json)} (distinct : (Table.names members).Nodup)
    (legible : ∀ member ∈ members, Legible style room member.2) :
    Legible style (room + 1) (.object members)

theorem isSpace_eq_true_iff (c : Char) :
    isSpace c = true ↔ c = ' ' ∨ c = '\t' ∨ c = '\n' ∨ c = '\r' := by
  simp only [isSpace, Bool.or_eq_true, beq_iff_eq, or_assoc]

/-- No blank, no bracket or quote and no byte order mark heads a word or a number. -/
theorem Spells.visible {cs : List Char} {value : Json} (spelled : Spells cs value) :
    ∃ first more, cs = first :: more ∧ isSpace first = false ∧
      first ≠ '"' ∧ first ≠ '[' ∧ first ≠ ']' ∧ first ≠ '{' ∧ first ≠ byteOrderMark := by
  obtain ⟨first, more, text, kind⟩ := spelled.start
  refine ⟨first, more, text, ?_, ?_, ?_, ?_, ?_, ?_⟩
  · refine Bool.eq_false_iff.mpr fun blank => ?_
    obtain rfl | rfl | rfl | rfl := (isSpace_eq_true_iff first).mp blank <;> revert kind <;> decide
  all_goals
    rintro rfl
    revert kind
    decide

/-- No blank, no closing bracket and no byte order mark heads the text of a value. -/
theorem Legible.start {style : Style} {room : Nat} {value : Json}
    (legible : Legible style room value) :
    ∃ first more, write style value = first :: more ∧ isSpace first = false ∧ first ≠ ']' ∧
      first ≠ byteOrderMark := by
  cases legible with
  | plain spelled =>
    obtain ⟨first, more, text, visible, _, _, unclosed, _, unmarked⟩ := spelled.visible
    exact ⟨first, more, text, visible, unclosed, unmarked⟩
  | string s => exact ⟨'"', _, by rw [write, writeString]; rfl, rfl, by decide, by decide⟩
  | broken _ text _ =>
    exact ⟨'"', _, by rw [write, writeBroken]; rfl, rfl, by decide, by decide⟩
  | array _ => exact ⟨'[', _, by rw [write]; rfl, rfl, by decide, by decide⟩
  | object _ _ => exact ⟨'{', _, by rw [write]; rfl, rfl, by decide, by decide⟩

theorem Legible.skipSpace {style : Style} {room : Nat} {value : Json}
    (legible : Legible style room value) (rest : List Char) :
    Json.skipSpace (write style value ++ rest) = write style value ++ rest := by
  obtain ⟨first, more, text, visible, _⟩ := legible.start
  rw [text, List.cons_append, skipSpace_cons visible]

def ReadBack (style : Style) (room : Nat) (value : Json) : Prop :=
  ∀ fuel rest, 2 * (write style value).length ≤ fuel → Delimited rest →
    readValue noStrays room fuel (write style value ++ rest) = .ok (value, rest)

theorem readBack_plain {style : Style} {value : Json} (room : Nat)
    (spelled : Spells (write style value) value) : ReadBack style room value := by
  intro fuel rest enough ends
  obtain ⟨first, more, text, _, unquoted, noArray, _, noObject, _⟩ := spelled.visible
  obtain ⟨less, rfl⟩ := Nat.exists_eq_add_one_of_ne_zero
    (show fuel ≠ 0 by rw [text, List.length_cons] at enough; omega)
  have read := spelled.read rest ends
  rw [text] at read ⊢
  rw [List.cons_append] at read ⊢
  rw [readValue]
  · exact read
  all_goals
    intro other same
    cases same
    contradiction

theorem readBack_string (style : Style) (room : Nat) (s : String) :
    ReadBack style room (.string s) := by
  intro fuel rest enough _
  obtain ⟨less, rfl⟩ := Nat.exists_eq_add_one_of_ne_zero
    (show fuel ≠ 0 by
      rw [write, writeString] at enough
      simp only [List.length_append, List.length_cons] at enough
      omega)
  rw [write, writeString, List.cons_append, List.cons_append, List.append_assoc,
    List.singleton_append, readValue, stringAfterQuote_written]
  rfl

theorem readBack_broken {style : Style} (escaped : style.asciiOnly = true) (room : Nat)
    {text : Text.Broken} (apart : Apart text.points) :
    ReadBack style room (.brokenString text) := by
  intro fuel rest enough _
  obtain ⟨less, rfl⟩ := Nat.exists_eq_add_one_of_ne_zero
    (show fuel ≠ 0 by
      rw [write, writeBroken] at enough
      simp only [List.length_append, List.length_cons] at enough
      omega)
  rw [write, writeBroken, escaped, List.cons_append, List.cons_append, List.append_assoc,
    List.singleton_append, readValue, stringAfterQuote_broken text apart]
  rfl

/-- The reading of members that goes on behind the value of one of them. -/
def readBehindMember (room fuel : Nat) (member : String × Json) (rest : List Char) :
    Except Halt (List (String × Json) × List Char) :=
  match skipSpace rest with
  | '}' :: behind => .ok ([member], behind)
  | ',' :: next => do
    let (members, behind) ← readMembers noStrays room fuel (skipSpace next)
    .ok (member :: members, behind)
  | other => halt .expectedComma other

section Sequences

variable {style : Style} (spaced : style.Spaced) {room : Nat}

theorem writeItems_cons_cons (style : Style) (item second : Json) (more : List Json) :
    writeItems style (item :: second :: more) =
      write style item ++ (style.itemSeparator ++ writeItems style (second :: more)) := by
  rw [writeItems, List.append_assoc]
  exact List.cons_ne_nil _ _

theorem writeItems_cons (style : Style) (item : Json) (more : List Json) :
    ∃ tail, writeItems style (item :: more) = write style item ++ tail := by
  cases more with
  | nil => exact ⟨[], by rw [writeItems, List.append_nil]⟩
  | cons second others => exact ⟨_, writeItems_cons_cons style item second others⟩

theorem skipSpace_items {item : Json} (legible : Legible style room item) (more : List Json)
    (rest : List Char) :
    skipSpace (writeItems style (item :: more) ++ rest) =
      writeItems style (item :: more) ++ rest := by
  obtain ⟨tail, text⟩ := writeItems_cons style item more
  rw [text, List.append_assoc, legible.skipSpace]

theorem writeMembers_cons_cons (style : Style) (name : String) (value : Json)
    (second : String × Json) (more : List (String × Json)) :
    writeMembers style ((name, value) :: second :: more) =
      writeString style.asciiOnly name ++ (style.nameSeparator ++ (write style value ++
        (style.itemSeparator ++ writeMembers style (second :: more)))) := by
  rw [writeMembers]
  · simp only [List.append_assoc]
  · exact List.cons_ne_nil _ _

theorem writeMembers_head (style : Style) (members : List (String × Json)) (some : members ≠ []) :
    ∃ more, writeMembers style members = '"' :: more := by
  cases members with
  | nil => exact absurd rfl some
  | cons member others =>
    rcases member with ⟨name, value⟩
    cases others with
    | nil => exact ⟨_, by rw [writeMembers, writeString]; rfl⟩
    | cons second more => exact ⟨_, by rw [writeMembers_cons_cons, writeString]; rfl⟩

theorem skipSpace_members {members : List (String × Json)} (some : members ≠ [])
    (rest : List Char) :
    skipSpace (writeMembers style members ++ rest) = writeMembers style members ++ rest := by
  obtain ⟨more, text⟩ := writeMembers_head style members some
  rw [text, List.cons_append, skipSpace_cons rfl]

include spaced

theorem readItems_written (items : List Json) (legible : ∀ item ∈ items, Legible style room item)
    (readBack : ∀ item ∈ items, ReadBack style room item) (some : items ≠ []) (fuel : Nat)
    (rest : List Char) (enough : 2 * (writeItems style items).length + 1 ≤ fuel) :
    readItems noStrays room fuel (writeItems style items ++ ']' :: rest) = .ok (items, rest) := by
  induction items generalizing fuel with
  | nil => exact absurd rfl some
  | cons item others ih =>
    obtain ⟨less, rfl⟩ := Nat.exists_eq_add_one_of_ne_zero (Nat.ne_of_gt (Nat.lt_of_lt_of_le
      (Nat.succ_pos _) enough))
    have readFirst := readBack item List.mem_cons_self less
    cases others with
    | nil =>
      rw [writeItems] at enough ⊢
      rw [readItems, readFirst _ (by omega) (by simp [Delimited])]
      simp only [Bind.bind, Except.bind, skipSpace_cons (show isSpace ']' = false from rfl)]
    | cons second more =>
      rw [writeItems_cons_cons] at enough ⊢
      simp only [List.length_append] at enough
      have parted := spaced.item.length_pos
      obtain ⟨behind, comma, blanks⟩ := skipSpace_separator spaced.item rfl
        (writeItems style (second :: more) ++ ']' :: rest)
      rw [skipSpace_items (legible second (by simp))] at blanks
      have readMore := ih (fun other member => legible other (List.mem_cons_of_mem _ member))
        (fun other member => readBack other (List.mem_cons_of_mem _ member))
        (List.cons_ne_nil _ _) less (by omega)
      rw [List.append_assoc, List.append_assoc, readItems,
        readFirst _ (by omega) (spaced.item.delimited _)]
      simp only [Bind.bind, Except.bind, comma, blanks, readMore]

theorem readMembers_member (name : String) {value : Json} (legible : Legible style room value)
    (readBack : ReadBack style room value) (fuel : Nat) (rest : List Char)
    (enough : 2 * (write style value).length ≤ fuel) (ends : Delimited rest) :
    readMembers noStrays room (fuel + 1) (writeString style.asciiOnly name ++
        (style.nameSeparator ++ (write style value ++ rest))) =
      readBehindMember room fuel (name, value) rest := by
  obtain ⟨behind, colon, blanks⟩ := skipSpace_separator spaced.name rfl
    (write style value ++ rest)
  rw [legible.skipSpace] at blanks
  rw [writeString, List.cons_append, List.cons_append, List.append_assoc, List.singleton_append,
    readMembers, stringAfterQuote_written]
  simp only [Bind.bind, Except.bind, colon, blanks, readBack fuel rest enough ends,
    Text.Wide.lossy_whole]
  rfl

theorem readMembers_written (members : List (String × Json))
    (legible : ∀ member ∈ members, Legible style room member.2)
    (readBack : ∀ member ∈ members, ReadBack style room member.2) (some : members ≠ [])
    (fuel : Nat) (rest : List Char)
    (enough : 2 * (writeMembers style members).length + 1 ≤ fuel) :
    readMembers noStrays room fuel (writeMembers style members ++ '}' :: rest) = .ok (members, rest) := by
  induction members generalizing fuel with
  | nil => exact absurd rfl some
  | cons member others ih =>
    rcases member with ⟨name, value⟩
    obtain ⟨less, rfl⟩ := Nat.exists_eq_add_one_of_ne_zero (Nat.ne_of_gt (Nat.lt_of_lt_of_le
      (Nat.succ_pos _) enough))
    have readFirst (behind : List Char) :=
      readMembers_member spaced name (show Legible style room value from
        legible (name, value) List.mem_cons_self) (readBack (name, value) List.mem_cons_self) less
        behind
    cases others with
    | nil =>
      rw [writeMembers] at enough ⊢
      simp only [List.length_append] at enough
      rw [List.append_assoc, List.append_assoc, readFirst _ (by omega) (by simp [Delimited]),
        readBehindMember, skipSpace_cons (show isSpace '}' = false from rfl)]
      rfl
    | cons second more =>
      rw [writeMembers_cons_cons] at enough ⊢
      simp only [List.length_append] at enough
      have parted := spaced.item.length_pos
      obtain ⟨behind, comma, blanks⟩ := skipSpace_separator spaced.item rfl
        (writeMembers style (second :: more) ++ '}' :: rest)
      rw [skipSpace_members (List.cons_ne_nil _ _)] at blanks
      have readMore := ih (fun other member => legible other (List.mem_cons_of_mem _ member))
        (fun other member => readBack other (List.mem_cons_of_mem _ member))
        (List.cons_ne_nil _ _) less (by omega)
      simp only [List.append_assoc]
      rw [readFirst _ (by omega) (spaced.item.delimited _), readBehindMember, comma]
      simp only [Bind.bind, Except.bind, blanks, readMore]

end Sequences

theorem readValue_array {room fuel : Nat} {cs rest : List Char} {items : List Json}
    (visible : skipSpace cs = cs) (unclosed : cs.head? ≠ some ']')
    (read : readItems noStrays room fuel cs = .ok (items, rest)) :
    readValue noStrays (room + 1) (fuel + 1) ('[' :: cs) = .ok (.array items, rest) := by
  rw [readValue, if_neg (Nat.succ_ne_zero room), visible]
  split
  · exact absurd rfl unclosed
  · rw [Nat.add_sub_cancel, read]
    rfl

theorem readValue_object {room fuel : Nat} {cs rest : List Char} {members : List (String × Json)}
    (distinct : (Table.names members).Nodup) (visible : skipSpace cs = cs)
    (unclosed : cs.head? ≠ some '}') (read : readMembers noStrays room fuel cs = .ok (members, rest)) :
    readValue noStrays (room + 1) (fuel + 1) ('{' :: cs) = .ok (.object members, rest) := by
  rw [readValue, if_neg (Nat.succ_ne_zero room), visible]
  split
  · exact absurd rfl unclosed
  · rw [Nat.add_sub_cancel, read]
    simp only [Bind.bind, Except.bind, Table.ofEntries_of_nodup members distinct]

/-- A legible value is read back, whatever follows it. -/
theorem Legible.readBack {style : Style} (spaced : style.Spaced) {room : Nat} {value : Json}
    (legible : Legible style room value) : ReadBack style room value := by
  induction legible with
  | plain spelled => exact readBack_plain _ spelled
  | string s => exact readBack_string style _ s
  | broken escaped text apart => exact readBack_broken escaped _ apart
  | @array room items legible ih =>
    intro fuel rest enough _
    rw [write] at enough ⊢
    simp only [List.length_append, List.length_cons, List.length_nil] at enough
    obtain ⟨less, rfl⟩ := Nat.exists_eq_add_one_of_ne_zero (show fuel ≠ 0 by omega)
    rw [List.cons_append, List.cons_append, List.append_assoc, List.singleton_append]
    cases items with
    | nil => rfl
    | cons item more =>
      have first := legible item List.mem_cons_self
      refine readValue_array (skipSpace_items first more _) ?_
        (readItems_written spaced _ legible ih (List.cons_ne_nil _ _) less rest (by omega))
      obtain ⟨tail, text⟩ := writeItems_cons style item more
      obtain ⟨head, others, written, _, unclosed, _⟩ := first.start
      rw [text, written]
      exact fun same => unclosed (Option.some.inj same)
  | @object room members distinct legible ih =>
    intro fuel rest enough _
    rw [write] at enough ⊢
    simp only [List.length_append, List.length_cons, List.length_nil] at enough
    obtain ⟨less, rfl⟩ := Nat.exists_eq_add_one_of_ne_zero (show fuel ≠ 0 by omega)
    rw [List.cons_append, List.cons_append, List.append_assoc, List.singleton_append]
    cases members with
    | nil => rfl
    | cons member more =>
      refine readValue_object distinct (skipSpace_members (List.cons_ne_nil _ _) _) ?_
        (readMembers_written spaced _ legible ih (List.cons_ne_nil _ _) less rest (by omega))
      obtain ⟨others, text⟩ := writeMembers_head style (member :: more) (List.cons_ne_nil _ _)
      rw [text]
      exact fun same => absurd (Option.some.inj same) (by decide)

theorem readDocument_written {style : Style} (spaced : style.Spaced) {value : Json}
    (legible : Legible style nestingLimit value) :
    readDocument noStrays (write style value) = .ok value := by
  have read := legible.readBack spaced (2 * (write style value).length + 2) [] (by omega)
    (by simp [Delimited])
  have visible := legible.skipSpace []
  rw [List.append_nil] at read visible
  rw [readDocument, visible, read]
  rfl

/-- What a style writes for a legible value is read as the value. -/
theorem parse_render {style : Style} (spaced : style.Spaced) {value : Json}
    (legible : Legible style nestingLimit value) : parse (render style value) = .ok value := by
  obtain ⟨first, more, text, _, _, unmarked⟩ := legible.start
  have noMark : ¬ (render style value).toList.head? = some byteOrderMark := by
    rw [render, String.toList_ofList, text]
    exact fun same => unmarked (Option.some.inj same)
  rw [parse, if_neg noMark, parseChars, render, String.toList_ofList,
    readDocument_written spaced legible]
  rfl

theorem legible_permissions (style : Style) (room : Nat) (map : PermissionMap) :
    Legible style (room + 2) map.toJson := by
  refine .object ?_ fun member present => ?_
  · rw [Table.names_map_values fun entry : String × List String => array (entry.2.map string)]
    exact map.distinct
  · obtain ⟨entry, _, rfl⟩ := List.mem_map.mp present
    refine .array fun item listed => ?_
    obtain ⟨action, _, rfl⟩ := List.mem_map.mp listed
    exact .string action

theorem parse_permissions {style : Style} (spaced : style.Spaced) (map : PermissionMap) :
    parse (render style map.toJson) = .ok map.toJson :=
  parse_render spaced (legible_permissions style _ map)

end TenantAccess.Json

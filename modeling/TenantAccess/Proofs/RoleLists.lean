import Mathlib.Data.List.Nodup
import TenantAccess.Proofs.RoleInput
import TenantAccess.Proofs.Trimming
import TenantAccess.Role.Names

/- Role lists as text. A list of names has many spellings: there may be blanks around a name, blank
items anywhere, and names that are said again. Reading a text yields a list of names exactly if the
text spells it, so that every text spells what is read from it, and the plain spelling of that is
read as the same list again. Every name that a role can be given may stand in a list. -/

set_option autoImplicit false

namespace TenantAccess.Role

/-- A name that a role list can hold: it is not empty, and it has neither a comma nor a blank at one
of its ends. -/
structure Listable (name : String) : Prop where
  present : name ≠ ""
  whole : ',' ∉ name.toList
  trimmed : Text.Trimmed name.toList name.toList

/-- Items that bring names in order, besides those that were seen before. An item is blank, says a
name again or brings the next one, in the last two cases with any blanks around it. -/
inductive Brings : List (List Char) → List (List Char) → List (List Char) → Prop
  | done {seen : List (List Char)} : Brings seen [] []
  | blank {seen items names : List (List Char)} {item : List Char} (empty : Text.AllBlank item)
      (rest : Brings seen items names) : Brings seen (item :: items) names
  | again {seen items names : List (List Char)} {item name : List Char} (known : name ∈ seen)
      (padded : Text.Trimmed item name) (rest : Brings seen items names) :
      Brings seen (item :: items) names
  | next {seen items names : List (List Char)} {item name : List Char}
      (padded : Text.Trimmed item name) (rest : Brings (name :: seen) items names) :
      Brings seen (item :: items) (name :: names)

/-- A text that spells a list of names: items with commas between them that bring the names. -/
structure IsListOf (text : String) (names : List String) : Prop where
  distinct : names.Nodup
  listable : ∀ name ∈ names, Listable name
  spelled : ∃ items, text.toList = [','].intercalate items ∧
    Brings [] items (names.map String.toList)

def itemNames (items : List (List Char)) : List (List Char) :=
  (items.map Text.trimChars).filter fun name => !name.isEmpty

theorem itemNames_cons_of_blank {item : List Char} (empty : Text.AllBlank item)
    (items : List (List Char)) : itemNames (item :: items) = itemNames items := by
  rw [itemNames, List.map_cons, (Text.trimChars_eq_nil_iff item).mpr empty]
  rfl

theorem itemNames_cons_of_name {item name : List Char} (padded : Text.Trimmed item name)
    (present : name ≠ []) (items : List (List Char)) :
    itemNames (item :: items) = name :: itemNames items := by
  have kept : (!name.isEmpty) = true := by simp [present]
  rw [itemNames, List.map_cons, ← (Text.trimmed_iff item name).mp padded]
  exact List.filter_cons_of_pos kept

theorem present_of_mem_itemNames {items : List (List Char)} {name : List Char}
    (member : name ∈ itemNames items) : name ≠ [] := by
  have kept := (List.mem_filter.mp member).2
  simpa using kept

/-- The names that are new after some that were seen, each once. -/
def newNames (seen names : List (List Char)) : List (List Char) :=
  (names.filter fun name => !seen.contains name).eraseDups

theorem newNames_cons_of_seen {seen : List (List Char)} {name : List Char} (known : name ∈ seen)
    (names : List (List Char)) : newNames seen (name :: names) = newNames seen names := by
  simp [newNames, known]

theorem newNames_cons_of_new {seen : List (List Char)} {name : List Char} (fresh : name ∉ seen)
    (names : List (List Char)) :
    newNames seen (name :: names) = name :: newNames (name :: seen) names := by
  have kept : (!seen.contains name) = true := by simp [fresh]
  have split : (names.filter fun other => !seen.contains other).filter
      (fun other => !other == name) =
        names.filter fun other => !(name :: seen).contains other := by
    rw [List.filter_filter]
    refine List.filter_congr fun other _ => ?_
    rw [List.contains_cons, Bool.not_or]
  have first : (name :: names).filter (fun other => !seen.contains other) =
      name :: names.filter fun other => !seen.contains other := List.filter_cons_of_pos kept
  rw [newNames, first, List.eraseDups_cons, split, newNames]

/-- Items that bring distinct names bring those that are new among them. -/
theorem Brings.eq_newNames {seen items names : List (List Char)} (brings : Brings seen items names)
    (distinct : names.Nodup) (fresh : ∀ name ∈ names, name ∉ seen)
    (present : ∀ name ∈ names, name ≠ []) : names = newNames seen (itemNames items) := by
  induction brings with
  | done => rfl
  | blank empty _ ih =>
    rw [itemNames_cons_of_blank empty]
    exact ih distinct fresh present
  | @again seen items names item name known padded _ ih =>
    by_cases nothing : name = []
    · rw [nothing, Text.trimmed_iff] at padded
      rw [itemNames_cons_of_blank ((Text.trimChars_eq_nil_iff item).mp padded.symm)]
      exact ih distinct fresh present
    · rw [itemNames_cons_of_name padded nothing, newNames_cons_of_seen known]
      exact ih distinct fresh present
  | @next seen items names item name padded _ ih =>
    obtain ⟨apart, distinct⟩ := List.nodup_cons.mp distinct
    obtain ⟨new, fresh⟩ := List.forall_mem_cons.mp fresh
    obtain ⟨solid, present⟩ := List.forall_mem_cons.mp present
    rw [itemNames_cons_of_name padded solid, newNames_cons_of_new new]
    refine congrArg (name :: ·) (ih distinct (fun other member => ?_) present)
    rw [List.mem_cons, not_or]
    exact ⟨fun same => apart (same ▸ member), fresh other member⟩

theorem brings_newNames (seen items : List (List Char)) :
    Brings seen items (newNames seen (itemNames items)) := by
  induction items generalizing seen with
  | nil => exact .done
  | cons item items ih =>
    by_cases empty : Text.AllBlank item
    · rw [itemNames_cons_of_blank empty]
      exact .blank empty (ih seen)
    · have padded : Text.Trimmed item (Text.trimChars item) := (Text.trimmed_iff item _).mpr rfl
      have present : Text.trimChars item ≠ [] := (Text.trimChars_eq_nil_iff item).not.mpr empty
      rw [itemNames_cons_of_name padded present]
      by_cases known : Text.trimChars item ∈ seen
      · rw [newNames_cons_of_seen known]
        exact .again known padded (ih seen)
      · rw [newNames_cons_of_new known]
        exact .next padded (ih _)

theorem brings_self (seen names : List (List Char))
    (trimmed : ∀ name ∈ names, Text.Trimmed name name) : Brings seen names names := by
  induction names generalizing seen with
  | nil => exact .done
  | cons name names ih =>
    obtain ⟨first, others⟩ := List.forall_mem_cons.mp trimmed
    exact .next first (ih _ others)

theorem not_comma_of_padded {item name : List Char} (padded : Text.Trimmed item name)
    (whole : ',' ∉ name) : ',' ∉ item := by
  have solid : Text.isBlank ',' = false := by decide
  obtain ⟨front, back, rfl, blankFront, blankBack⟩ := padded.around
  rw [List.mem_append, List.mem_append]
  rintro ((inFront | inName) | inBack)
  · exact absurd (blankFront _ inFront) (solid ▸ Bool.false_ne_true)
  · exact whole inName
  · exact absurd (blankBack _ inBack) (solid ▸ Bool.false_ne_true)

theorem Brings.not_comma {seen items names : List (List Char)} (brings : Brings seen items names)
    (wholeSeen : ∀ name ∈ seen, ',' ∉ name) (whole : ∀ name ∈ names, ',' ∉ name) :
    ∀ item ∈ items, ',' ∉ item := by
  induction brings with
  | done => exact fun _ member => absurd member List.not_mem_nil
  | blank empty _ ih =>
    refine List.forall_mem_cons.mpr ⟨fun comma => ?_, ih wholeSeen whole⟩
    exact absurd (empty _ comma) (by decide)
  | again known padded _ ih =>
    exact List.forall_mem_cons.mpr
      ⟨not_comma_of_padded padded (wholeSeen _ known), ih wholeSeen whole⟩
  | next padded _ ih =>
    obtain ⟨first, others⟩ := List.forall_mem_cons.mp whole
    exact List.forall_mem_cons.mpr ⟨not_comma_of_padded padded first,
      ih (List.forall_mem_cons.mpr ⟨first, wholeSeen⟩) others⟩

theorem splitCommas_eq_splitOn (cs : List Char) : splitCommas cs = cs.splitOn ',' := by
  induction cs with
  | nil => rfl
  | cons c rest ih =>
    rw [List.splitOn_cons_eq_if_modifyHead, splitCommas, ih]
    refine ite_congr (by rw [beq_iff_eq]) (fun _ => rfl) fun _ => ?_
    cases pieces : rest.splitOn ',' with
    | nil => exact absurd pieces (List.splitOn_ne_nil _ _)
    | cons first more => rfl

theorem not_comma_of_mem_splitOn {cs piece : List Char} (member : piece ∈ cs.splitOn ',') :
    ',' ∉ piece := by
  induction cs generalizing piece with
  | nil =>
    obtain rfl := List.mem_singleton.mp member
    exact List.not_mem_nil
  | cons c rest ih =>
    rw [List.splitOn_cons_eq_if_modifyHead] at member
    by_cases comma : c = ','
    · rw [if_pos (beq_iff_eq.mpr comma)] at member
      rcases List.mem_cons.mp member with rfl | later
      · exact List.not_mem_nil
      · exact ih later
    · rw [if_neg (comma ∘ beq_iff_eq.mp)] at member
      cases pieces : rest.splitOn ',' with
      | nil => exact absurd pieces (List.splitOn_ne_nil _ _)
      | cons first more =>
        rw [pieces] at member ih
        rcases List.mem_cons.mp member with rfl | later
        · exact List.not_mem_cons_of_ne_of_not_mem (Ne.symm comma) (ih List.mem_cons_self)
        · exact ih (List.mem_cons_of_mem _ later)

theorem namesOfChars_eq (cs : List Char) :
    namesOfChars cs = newNames [] (itemNames (cs.splitOn ',')) := by
  have all (names : List (List Char)) : newNames [] names = names.eraseDups :=
    congrArg List.eraseDups (List.filter_eq_self.mpr fun _ _ => rfl)
  rw [namesOfChars, splitCommas_eq_splitOn, all, itemNames]

theorem toList_parseNames (text : String) :
    (parseNames text).map String.toList = namesOfChars text.toList := by
  simp [parseNames, Function.comp_def]

/-- Every text is a list of the names that are read from it. -/
theorem isListOf_parseNames (text : String) : IsListOf text (parseNames text) where
  distinct := by
    have distinct : ((parseNames text).map String.toList).Nodup := by
      rw [toList_parseNames]
      exact nodup_eraseDups _
    exact List.Nodup.of_map _ distinct
  listable := by
    intro name member
    have listed : name.toList ∈ namesOfChars text.toList := by
      rw [← toList_parseNames]
      exact List.mem_map_of_mem member
    rw [namesOfChars_eq, newNames, List.mem_eraseDups] at listed
    have named := (List.mem_filter.mp listed).1
    obtain ⟨piece, split, trimmed⟩ := List.mem_map.mp (List.mem_filter.mp named).1
    rw [eq_comm, ← Text.trimmed_iff] at trimmed
    refine ⟨String.toList_eq_nil_iff.not.mp (present_of_mem_itemNames named), ?_, ?_⟩
    · obtain ⟨front, back, same, -⟩ := trimmed.around
      refine fun comma => not_comma_of_mem_splitOn split ?_
      rw [same]
      exact List.mem_append_left _ (List.mem_append_right _ comma)
    · exact Text.trimmed_of_ends trimmed.first trimmed.last
  spelled := by
    refine ⟨text.toList.splitOn ',', (List.intercalate_splitOn ',').symm, ?_⟩
    rw [toList_parseNames, namesOfChars_eq]
    exact brings_newNames [] _

/-- Splitting finds the items that were joined; no items and one empty item look the same. -/
theorem itemNames_splitOn_intercalate {items : List (List Char)}
    (whole : ∀ item ∈ items, ',' ∉ item) :
    itemNames (([','].intercalate items).splitOn ',') = itemNames items := by
  cases items with
  | nil => rfl
  | cons item items => rw [List.splitOn_intercalate ',' whole (List.cons_ne_nil _ _)]

/-- A list is read from each of its spellings. -/
theorem IsListOf.parseNames_eq {text : String} {names : List String}
    (spells : IsListOf text names) : parseNames text = names := by
  obtain ⟨items, joined, brings⟩ := spells.spelled
  have distinct : (names.map String.toList).Nodup :=
    spells.distinct.map fun _ _ => String.toList_inj.mp
  have listable {holds : List Char → Prop} (each : ∀ name, Listable name → holds name.toList) :
      ∀ cs ∈ names.map String.toList, holds cs :=
    List.forall_mem_map.mpr fun name member => each name (spells.listable name member)
  have whole := brings.not_comma (fun _ member => absurd member List.not_mem_nil)
    (listable fun _ name => name.whole)
  have read : namesOfChars text.toList = names.map String.toList := by
    rw [namesOfChars_eq, joined, itemNames_splitOn_intercalate whole]
    exact (brings.eq_newNames distinct (fun _ _ => List.not_mem_nil)
      (listable fun name listable => String.toList_eq_nil_iff.not.mpr listable.present)).symm
  rw [parseNames, read, List.map_map]
  exact (List.map_congr_left fun name _ => String.ofList_toList).trans (List.map_id names)

theorem isListOf_intercalate {names : List String} (distinct : names.Nodup)
    (listable : ∀ name ∈ names, Listable name) : IsListOf (",".intercalate names) names where
  distinct := distinct
  listable := listable
  spelled := by
    refine ⟨names.map String.toList, String.toList_intercalate, brings_self [] _ ?_⟩
    exact List.forall_mem_map.mpr fun name member => (listable name member).trimmed

/-- Letters, digits, underscores and hyphens are neither blanks nor commas. -/
theorem not_blank_of_nameLetter {c : Char}
    (letter : c.isAlphanum = true ∨ c = '_' ∨ c = '-') : Text.isBlank c = false ∧ c ≠ ',' := by
  have within : c.toNat = 45 ∨ 48 ≤ c.toNat ∧ c.toNat < 123 := by
    rcases letter with alphanumeric | rfl | rfl
    · unfold Char.isAlphanum Char.isAlpha Char.isUpper Char.isLower Char.isDigit at alphanumeric
      simp only [Bool.or_eq_true, Bool.and_eq_true, decide_eq_true_eq, ge_iff_le,
        UInt32.le_iff_toNat_le] at alphanumeric
      change (65 ≤ c.toNat ∧ c.toNat ≤ 90 ∨ 97 ≤ c.toNat ∧ c.toNat ≤ 122) ∨
        48 ≤ c.toNat ∧ c.toNat ≤ 57 at alphanumeric
      omega
    · exact Or.inr (by decide)
    · exact Or.inl rfl
  refine ⟨Text.not_blank_of_visible (by omega) (by omega), ?_⟩
  rintro rfl
  revert within
  decide

theorem WellNamed.listable {name : String} (named : WellNamed name) : Listable name := by
  obtain ⟨first, rest, letters, alphabetic, others⟩ := named.shape
  have letter : ∀ c ∈ name.toList, Text.isBlank c = false ∧ c ≠ ',' := by
    rw [letters]
    refine List.forall_mem_cons.mpr ⟨not_blank_of_nameLetter (Or.inl ?_),
      fun c member => not_blank_of_nameLetter (others c member)⟩
    rw [Char.isAlphanum, alphabetic, Bool.true_or]
  refine ⟨?_, fun comma => (letter ',' comma).2 rfl,
    Text.trimmed_of_solid fun c member => (letter c member).1⟩
  rw [ne_eq, ← String.toList_eq_nil_iff, letters]
  exact List.cons_ne_nil first rest

/-- Reading a role list finds exactly the list that the text spells, and what is read is read from
its plain spelling again. The names that drafts and changes of roles give can all be listed. -/
theorem role_lists_are_read_back (text : String) (names : List String) :
    (parseNames text = names ↔ IsListOf text names) ∧
    parseNames (",".intercalate (parseNames text)) = parseNames text ∧
    (∀ problem input draft, RoleDraft.check problem input = .ok draft → Listable draft.name) ∧
    ∀ problem input change given, RoleChange.check problem input = .ok change →
      change.name = some given → Listable given := by
  refine ⟨⟨?_, IsListOf.parseNames_eq⟩, ?_, ?_, ?_⟩
  · rintro rfl
    exact isListOf_parseNames text
  · have read := isListOf_parseNames text
    exact (isListOf_intercalate read.distinct read.listable).parseNames_eq
  · intro problem input draft read
    exact (wellNamed_of_draft read).listable
  · intro problem input change given read renames
    exact (wellNamed_of_change read renames).listable

/-- A list with blanks of several kinds, blank items and a name that is said again. -/
def scrawled : String := " reader ,,\u3000,Reader_2,reader\t"

theorem scrawled_names_are_read :
    parseNames scrawled = ["reader", "Reader_2"] ∧ IsListOf scrawled ["reader", "Reader_2"] ∧
    RoleDraft.check .notAttributes
        (.object [("name", .string "reader"), ("permissions", .object [])]) =
      .ok ⟨"reader", .empty⟩ ∧ Listable "reader" ∧
    RoleChange.check .notAttributes (.object [("name", .string "Reader_2")]) =
      .ok ⟨some "Reader_2", none⟩ ∧ Listable "Reader_2" := by
  have read : parseNames scrawled = ["reader", "Reader_2"] := by decide
  have drafted : RoleDraft.check .notAttributes
      (.object [("name", .string "reader"), ("permissions", .object [])]) =
    .ok ⟨"reader", .empty⟩ := by rfl
  have changed : RoleChange.check .notAttributes (.object [("name", .string "Reader_2")]) =
    .ok ⟨some "Reader_2", none⟩ := by rfl
  obtain ⟨spells, -, drafts, changes⟩ := role_lists_are_read_back scrawled ["reader", "Reader_2"]
  exact ⟨read, spells.mp read, drafted, drafts _ _ _ drafted, changed,
    changes _ _ _ "Reader_2" changed rfl⟩

end TenantAccess.Role

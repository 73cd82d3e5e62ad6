import TenantAccess.Proofs.LenientNumbers
import TenantAccess.Store.Roles

/- Spellings of role ids. The digits of an id may be in either case, with hyphens anywhere among
them, scheme names and braces in front and braces behind: every such spelling is read as the id, and
so all of them find the same role. The number that any text is read as fits into an id, and the
canonical text of what is read is a spelling of it. -/

set_option autoImplicit false

namespace TenantAccess.Uuid

open Text (literal replaceFrom)
open Text.IntLiteral (IsHexDigit digitIn? isHexDigit_of_mem read?)

/-- What may stand in front of the digits of an id, in any order and number. -/
def openings : List (List Char) := ["urn:".toList, "uuid:".toList, ['{'], ['}']]

/-- Whether a text spells an id: behind scheme names and braces its 32 digits in either case, with
hyphens anywhere among them, and then braces. -/
def Spelling (uuid : Uuid) (text : String) : Prop :=
  ∃ (front : List (List Char)) (digits closing : List Char),
    text.toList = front.flatten ++ (digits ++ closing) ∧ (∀ word ∈ front, word ∈ openings) ∧
      (∀ c ∈ closing, isBrace c = true) ∧
        (digits.filter (· ≠ '-')).map Char.toLower = Text.hexDigits 32 uuid.toNat

theorem replaceFrom_before (pattern mark : List Char) (skip : Nat) (before other : Option Char)
    (cs : List Char) :
    replaceFrom (literal pattern) mark skip before cs =
      replaceFrom (literal pattern) mark skip other cs := by
  cases cs with
  | nil => rfl
  | cons c rest => cases skip <;> rfl

theorem eraseAll_opening {pattern : String} (scheme : pattern ∈ ["urn:", "uuid:"])
    {word : List Char} (opening : word ∈ openings) (rest : List Char) :
    eraseAll pattern (word ++ rest) =
      (if word = pattern.toList then [] else word) ++ eraseAll pattern rest := by
  have continued (c : Char) : replaceFrom (literal pattern.toList) [] 0 (some c) rest =
      eraseAll pattern rest := replaceFrom_before ..
  simp only [List.mem_cons, List.not_mem_nil, or_false, openings] at scheme opening
  -- No name of a scheme starts within another word, whatever comes behind the word.
  rcases scheme with rfl | rfl
  · rcases opening with rfl | rfl | rfl | rfl
    · exact continued ':'
    · exact congrArg ("uuid:".toList ++ ·) (continued ':')
    · exact congrArg ('{' :: ·) (continued '{')
    · exact congrArg ('}' :: ·) (continued '}')
  · rcases opening with rfl | rfl | rfl | rfl
    · exact congrArg ("urn:".toList ++ ·) (continued ':')
    · exact continued ':'
    · exact congrArg ('{' :: ·) (continued '{')
    · exact congrArg ('}' :: ·) (continued '}')

/-- Of what stands in front, the name of a scheme is erased and nothing else. -/
theorem eraseAll_flatten {pattern : String} (scheme : pattern ∈ ["urn:", "uuid:"])
    {front : List (List Char)} (opened : ∀ word ∈ front, word ∈ openings) (back : List Char) :
    eraseAll pattern (front.flatten ++ back) =
      (front.filter (· ≠ pattern.toList)).flatten ++ eraseAll pattern back := by
  induction front with
  | nil => rfl
  | cons word front ih =>
    obtain ⟨opening, others⟩ := List.forall_mem_cons.mp opened
    rw [List.flatten_cons, List.append_assoc, eraseAll_opening scheme opening, ih others]
    by_cases same : word = pattern.toList
    · rw [if_pos same, List.filter_cons_of_neg (by simpa using same), List.nil_append]
    · rw [if_neg same, List.filter_cons_of_pos (by simpa using same), List.flatten_cons,
        List.append_assoc]

theorem eraseAll_of_absent {pattern : String} (scheme : pattern ∈ ["urn:", "uuid:"])
    {cs : List Char} (absent : 'u' ∉ cs) : eraseAll pattern cs = cs := by
  obtain ⟨tail, starts⟩ : ∃ tail, pattern.toList = 'u' :: tail := by
    simp only [List.mem_cons, List.not_mem_nil, or_false] at scheme
    rcases scheme with rfl | rfl <;> exact ⟨_, rfl⟩
  rw [eraseAll, starts]
  have kept (before : Option Char) : replaceFrom (literal ('u' :: tail)) [] 0 before cs = cs := by
    induction cs generalizing before with
    | nil => rfl
    | cons c rest ih =>
      rw [List.mem_cons, not_or] at absent
      have unmatched : literal ('u' :: tail) before (c :: rest) = none := by
        refine if_neg ?_
        rw [List.isPrefixOf_cons_cons, beq_false_of_ne absent.1, Bool.false_and]
        exact Bool.false_ne_true
      rw [replaceFrom, unmatched]
      exact congrArg (c :: ·) (ih absent.2 (some c))
  exact kept none

theorem bareDigits_eq {text : String} {front : List (List Char)} {digits closing : List Char}
    (whole : text.toList = front.flatten ++ (digits ++ closing))
    (opened : ∀ word ∈ front, word ∈ openings) (closed : ∀ c ∈ closing, isBrace c = true)
    (plain : ∀ c ∈ digits, c ≠ 'u' ∧ isBrace c = false) :
    bareDigits text = digits.filter (· ≠ '-') := by
  have absent : 'u' ∉ digits ++ closing := by
    intro member
    rcases List.mem_append.mp member with inside | behind
    · exact (plain 'u' inside).1 rfl
    · exact absurd (closed 'u' behind) (by decide)
  let braces := (front.filter (· ≠ "urn:".toList)).filter (· ≠ "uuid:".toList)
  have remaining : ∀ word ∈ front.filter (· ≠ "urn:".toList), word ∈ openings :=
    fun word member => opened word (List.mem_filter.mp member).1
  have urn : "urn:" ∈ ["urn:", "uuid:"] := List.mem_cons_self
  have scheme : "uuid:" ∈ ["urn:", "uuid:"] := List.mem_cons_of_mem _ List.mem_cons_self
  have unnamed : eraseAll "uuid:" (eraseAll "urn:" text.toList) =
      braces.flatten ++ digits ++ closing := by
    rw [whole, eraseAll_flatten urn opened, eraseAll_of_absent urn absent,
      eraseAll_flatten scheme remaining, eraseAll_of_absent scheme absent, List.append_assoc]
  have braced : ∀ c ∈ braces.flatten, isBrace c = true := by
    intro c member
    obtain ⟨word, listed, inside⟩ := List.mem_flatten.mp member
    simp only [braces, List.mem_filter, decide_eq_true_eq] at listed
    obtain ⟨⟨opening, notUrn⟩, notUuid⟩ := listed
    have opening := opened word opening
    simp only [openings, List.mem_cons, List.not_mem_nil, or_false] at opening
    rcases opening with same | same | rfl | rfl
    · exact absurd same notUrn
    · exact absurd same notUuid
    all_goals
      obtain rfl := List.mem_singleton.mp inside
      rfl
  rw [bareDigits, unnamed]
  exact congrArg (List.filter _) (Text.dropWhile_both _ digits _ braced (fun c member =>
    (plain c member).2) closed)

/-- Every spelling of an id is read as it. -/
theorem parse?_of_spelling {uuid : Uuid} {text : String} (spelling : Spelling uuid text) :
    parse? text = some uuid := by
  obtain ⟨front, digits, closing, whole, opened, closed, lower⟩ := spelling
  have foreign : digitIn? 16 'u' = none ∧ digitIn? 16 '{' = none ∧ digitIn? 16 '}' = none := by
    decide
  have plain : ∀ c ∈ digits, c ≠ 'u' ∧ isBrace c = false := by
    intro c member
    by_cases hyphen : c = '-'
    · subst hyphen
      decide
    · have digit : IsHexDigit c :=
        isHexDigit_of_mem (List.mem_filter.mpr ⟨member, decide_eq_true hyphen⟩) lower
      refine ⟨digit.ne foreign.1, ?_⟩
      rw [isBrace, beq_false_of_ne (digit.ne foreign.2.1),
        beq_false_of_ne (digit.ne foreign.2.2), Bool.false_or]
  have bare := bareDigits_eq whole opened closed plain
  have size : (bareDigits text).length = 32 := by
    rw [bare, ← List.length_map Char.toLower, lower, Text.length_hexDigits]
  have small : uuid.toNat < 16 ^ 32 := uuid.isLt
  unfold parse?
  rw [if_pos size, bare, Text.IntLiteral.read?_hexDigits small lower, Option.map_some,
    BitVec.ofInt_natCast, BitVec.ofNat_toNat, BitVec.setWidth_eq]

/-- Groups of digits are the digits once the hyphens between them are gone. -/
theorem filter_groups {digits : List Char} (plain : '-' ∉ digits) :
    (digits.take 8 ++ '-' :: (digits.drop 8).take 4 ++ '-' :: (digits.drop 12).take 4
      ++ '-' :: (digits.drop 16).take 4 ++ '-' :: digits.drop 20).filter (· ≠ '-') = digits := by
  have kept {part : List Char} (inside : List.Sublist part digits) :
      part.filter (· ≠ '-') = part := by
    refine List.filter_eq_self.mpr fun c member => decide_eq_true ?_
    rintro rfl
    exact plain (inside.subset member)
  have middle (n : Nat) : List.Sublist ((digits.drop n).take 4) digits :=
    (List.take_sublist 4 _).trans (List.drop_sublist n digits)
  have behind (n : Nat) : (digits.drop n).take 4 ++ digits.drop (n + 4) = digits.drop n := by
    rw [← List.drop_drop, List.take_append_drop]
  have skipped (rest : List Char) :
      ('-' :: rest).filter (· ≠ '-') = rest.filter (· ≠ '-') := rfl
  simp only [List.filter_append, skipped, kept (List.take_sublist 8 digits),
    kept (middle _), kept (List.drop_sublist 20 digits), List.append_assoc]
  rw [behind 16, behind 12, behind 8, List.take_append_drop]

theorem spelling_text (uuid : Uuid) : Spelling uuid uuid.text := by
  refine ⟨[], uuid.canonicalChars, [], ?_, List.forall_mem_nil _, List.forall_mem_nil _, ?_⟩
  · rw [text, String.toList_ofList, List.append_nil, List.flatten_nil, List.nil_append]
  · have plain : '-' ∉ Text.hexDigits 32 uuid.toNat := by
      intro member
      obtain ⟨digit, small, same⟩ := Text.mem_hexDigits member
      have others : ∀ digit < 16, '-' ≠ Text.hexDigit digit := by decide
      exact others digit small same
    have lower : ∀ c ∈ Text.hexDigits 32 uuid.toNat, c.toLower = id c := by
      intro c member
      obtain ⟨digit, small, rfl⟩ := Text.mem_hexDigits member
      have kept : ∀ digit < 16, (Text.hexDigit digit).toLower = Text.hexDigit digit := by decide
      exact kept digit small
    rw [canonicalChars, filter_groups plain, List.map_congr_left lower, List.map_id]

/-- Whether a text is read as a number of 32 digits, however leniently, that is an id. -/
def Writes (text : String) (uuid : Uuid) : Prop :=
  (bareDigits text).length = 32 ∧
    read? 16 (String.ofList (bareDigits text)) = some (uuid.toNat : Int)

/-- The number that 32 digits are read as always fits into an id. -/
theorem parse?_eq_some_iff (text : String) (uuid : Uuid) :
    parse? text = some uuid ↔ Writes text uuid := by
  unfold parse? Writes
  dsimp only
  by_cases size : (bareDigits text).length = 32
  · rw [if_pos size, and_iff_right size, Option.map_eq_some_iff]
    constructor
    · rintro ⟨number, read, rfl⟩
      have plain : '-' ∉ (String.ofList (bareDigits text)).toList := by
        rw [String.toList_ofList]
        intro member
        exact of_decide_eq_true (List.mem_filter.mp member).2 rfl
      obtain ⟨least, greatest⟩ := Text.IntLiteral.read?_bounds read plain
      rw [String.toList_ofList, size] at greatest
      have fits : number % (2 ^ 128 : Nat) = number := Int.emod_eq_of_lt least greatest
      rw [read, BitVec.toNat_ofInt, fits, Int.toNat_of_nonneg least]
    · intro read
      refine ⟨_, read, ?_⟩
      rw [BitVec.ofInt_natCast, BitVec.ofNat_toNat, BitVec.setWidth_eq]
  · rw [if_neg size]
    exact ⟨nofun, fun both => absurd both.1 size⟩

/-- A text is read as the id that it spells, or at all as the number that it writes. Whatever id it
is read as, the canonical text of the id is read as the same, and every spelling of the id finds the
same role, or none, as the text does. -/
theorem spellings_find_one_role (database : Database) (organizationId text : String) :
    (∀ uuid, Spelling uuid text → parse? text = some uuid) ∧
    (∀ uuid, parse? text = some uuid ↔ Writes text uuid) ∧
    ∀ uuid, parse? text = some uuid →
      parse? uuid.text = some uuid ∧
      database.findRole organizationId text = database.findRoleById organizationId uuid ∧
      ∀ other, Spelling uuid other →
        database.findRole organizationId other = database.findRole organizationId text := by
  refine ⟨fun uuid => parse?_of_spelling, parse?_eq_some_iff text, fun uuid read => ?_⟩
  have found {spelling : String} (parsed : parse? spelling = some uuid) :
      database.findRole organizationId spelling = database.findRoleById organizationId uuid := by
    rw [Database.findRole, parsed]
    rfl
  refine ⟨parse?_of_spelling (spelling_text uuid), found read, fun other spelling => ?_⟩
  rw [found (parse?_of_spelling spelling), found read]

def shelved : Database :=
  { Database.empty with roles := [⟨0xABCDEF, "acme", "reader", .object [], 0, 0⟩] }

/-- Scheme names twice, braces that do not match, and hyphens where they are not usual. -/
def oddText : String := "urn:\x7buuid:urn:0000-000000000000000000-0000ABcdEF-\x7b\x7d"

theorem oddText_spells : Spelling 0xABCDEF oddText :=
  ⟨["urn:".toList, ['{'], "uuid:".toList, "urn:".toList],
    "0000-000000000000000000-0000ABcdEF-".toList, ['{', '}'], by decide, by decide,
    List.all_eq_true.mp rfl, rfl⟩

theorem odd_spelling_finds_the_reader :
    Spelling 0xABCDEF oddText ∧ parse? oddText = some 0xABCDEF ∧
    shelved.findRole "acme" (text 0xABCDEF) = shelved.findRole "acme" oddText ∧
    (shelved.findRole "acme" oddText).map RoleRow.name = some "reader" := by
  obtain ⟨reads, -, finds⟩ := spellings_find_one_role shelved "acme" oddText
  obtain ⟨-, found, others⟩ := finds 0xABCDEF (reads _ oddText_spells)
  refine ⟨oddText_spells, reads _ oddText_spells, others _ (spelling_text _), ?_⟩
  rw [found]
  rfl

end TenantAccess.Uuid

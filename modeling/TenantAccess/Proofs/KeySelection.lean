import TenantAccess.Proofs.KeyLookup
import TenantAccess.Token.Signed

set_option autoImplicit false

namespace TenantAccess.Token

/-- An entry of a document publishes a key for signatures: the key can be read and is meant for
nothing else, and it has an id. -/
structure Publishes (entry : Json) (key : Key) : Prop where
  readable : ∃ members, entry = .object members ∧ readMaterial members = .ok (some key.material) ∧
    member members "kid" = key.id ∧
    (member members "use" = .null ∨ member members "use" = .string "sig")
  named : key.id.isTruthy = true

/-- The key that a document selects for the header of a token: the first that is published under the
id in the header or, if the header names none, the only one that is published. -/
inductive Selects (document : Json) (header : List (String × Json)) (key : Key) : Prop
  | named {members : List (String × Json)} {before after : List Json} {entry : Json}
      {id : Text.Wide} (object : document = .object members)
      (listed : Table.lookup? "keys" members = some (.array (before ++ entry :: after)))
      (names : Table.lookup? "kid" header = some (.ofText id))
      (publishes : Publishes entry key) (same : key.id = .ofText id)
      (first : ∀ other ∈ before, ∀ rival, Publishes other rival → rival.id ≠ .ofText id)
  | sole {members : List (String × Json)} {before after : List Json} {entry : Json}
      (object : document = .object members)
      (listed : Table.lookup? "keys" members = some (.array (before ++ entry :: after)))
      (unnamed : Table.lookup? "kid" header = none)
      (publishes : Publishes entry key)
      (only : ∀ other ∈ before ++ after, ∀ rival, ¬ Publishes other rival)

def publishedKey? (entry : Json) : Option Key :=
  match readEntry entry with
  | .ok (some (members, material)) =>
    if isForSigning members then some ⟨member members "kid", material⟩ else none
  | _ => none

theorem isForSigning_iff (members : List (String × Json)) :
    isForSigning members = true ↔
      (member members "use" = .null ∨ member members "use" = .string "sig") ∧
        (member members "kid").isTruthy = true := by
  unfold isForSigning
  rw [Bool.and_eq_true]
  cases member members "use" <;> simp

theorem readEntry_eq_some_iff (entry : Json) (members : List (String × Json))
    (material : Material) :
    readEntry entry = .ok (some (members, material)) ↔
      entry = .object members ∧ readMaterial members = .ok (some material) := by
  constructor
  · intro read
    cases entry with
    | object own =>
      rw [readEntry] at read
      cases readOwn : readMaterial own with
      | error fault =>
        rw [readOwn] at read
        cases read
      | ok material? =>
        rw [readOwn] at read
        cases material? with
        | none => cases read
        | some ownMaterial =>
          cases read
          exact ⟨rfl, readOwn⟩
    | _ => cases read
  · rintro ⟨rfl, readable⟩
    rw [readEntry, readable]
    rfl

theorem publishedKey?_eq_some_iff (entry : Json) (key : Key) :
    publishedKey? entry = some key ↔ Publishes entry key := by
  constructor
  · intro published
    unfold publishedKey? at published
    split at published
    · rename_i members material read
      split at published
      · rename_i signing
        cases published
        obtain ⟨rfl, readable⟩ := (readEntry_eq_some_iff entry members material).mp read
        obtain ⟨use, named⟩ := (isForSigning_iff members).mp signing
        exact ⟨⟨members, rfl, readable, rfl, use⟩, named⟩
      · cases published
    · cases published
  · rintro ⟨⟨members, rfl, readable, same, use⟩, named⟩
    have read := (readEntry_eq_some_iff (.object members) members key.material).mpr ⟨rfl, readable⟩
    have signing : isForSigning members = true := by
      rw [isForSigning_iff, same]
      exact ⟨use, named⟩
    unfold publishedKey?
    rw [read]
    simp only [signing, ↓reduceIte, same]

theorem not_publishes_of_none {entry : Json} (unpublished : publishedKey? entry = none)
    (key : Key) : ¬ Publishes entry key := by
  intro publishes
  rw [(publishedKey?_eq_some_iff entry key).mpr publishes] at unpublished
  cases unpublished

/-- The signing keys among entries are those that the entries publish. -/
theorem signing_of_readEntries {entries : List Json}
    {usable : List (List (String × Json) × Material)} (read : readEntries entries = .ok usable) :
    ((usable.filter fun entry => isForSigning entry.1).map fun entry =>
      (⟨member entry.1 "kid", entry.2⟩ : Key)) = entries.filterMap publishedKey? := by
  induction entries generalizing usable with
  | nil =>
    cases read
    rfl
  | cons entry rest ih =>
    rw [readEntries, bind_eq_ok_iff] at read
    obtain ⟨own, readOwn, read⟩ := read
    rw [bind_eq_ok_iff] at read
    obtain ⟨others, readRest, same⟩ := read
    cases same
    rw [List.filter_append, List.map_append, ih readRest, List.filterMap_cons, publishedKey?,
      readOwn]
    cases own with
    | none => rfl
    | some own =>
      by_cases signing : isForSigning own.1 = true
      · simp only [Option.toList_some, List.filter_cons, signing, ↓reduceIte]
        rfl
      · simp only [Option.toList_some, List.filter_cons, signing, Bool.false_eq_true, ↓reduceIte]
        rfl

theorem signingKeys_eq_ok {document : Json} {keys : List Key}
    (read : signingKeys document = .ok keys) :
    ∃ members entries, document = .object members ∧
      Table.lookup? "keys" members = some (.array entries) ∧
      keys = entries.filterMap publishedKey? := by
  cases document with
  | object members =>
    unfold signingKeys at read
    dsimp only at read
    cases listed : Table.lookup? "keys" members with
    | none =>
      rw [listed] at read
      cases read
    | some value =>
      rw [listed] at read
      dsimp only [Option.getD_some] at read
      split at read
      · cases read
      split at read
      · rename_i entries _
        refine ⟨members, entries, rfl, listed, ?_⟩
        split at read
        · cases read
        · cases read
        · rename_i usable _ usableEq
          rw [← signing_of_readEntries usableEq]
          split at read
          · cases read
          · cases read
            rfl
      · cases read
  | _ => cases read

/-- The key found by an id is the first that an entry publishes under it. -/
theorem matchKey?_some_eq_some {entries : List Json} {id : Text.Wide} {key : Key}
    (matched : matchKey? (entries.filterMap publishedKey?) (some id) = some key) :
    ∃ before entry after, entries = before ++ entry :: after ∧ Publishes entry key ∧
      key.id = .ofText id ∧
      ∀ other ∈ before, ∀ rival, Publishes other rival → rival.id ≠ .ofText id := by
  rw [matchKey?, List.find?_eq_some_iff_append] at matched
  obtain ⟨fits, earlier, later, split, passed⟩ := matched
  obtain ⟨before, rest, rfl, readBefore, readRest⟩ := List.filterMap_eq_append_iff.mp split
  obtain ⟨skipped, entry, after, rfl, unpublished, published, -⟩ :=
    List.filterMap_eq_cons_iff.mp readRest
  refine ⟨before ++ skipped, entry, after, (List.append_assoc _ _ _).symm,
    (publishedKey?_eq_some_iff entry key).mp published, ?_, ?_⟩
  · exact Json.text?_eq_some_iff.mp (beq_iff_eq.mp fits)
  · intro other among rival publishes same
    rcases List.mem_append.mp among with inBefore | inSkipped
    · have listed : rival ∈ earlier := by
        rw [← readBefore]
        exact List.mem_filterMap.mpr
          ⟨other, inBefore, (publishedKey?_eq_some_iff other rival).mpr publishes⟩
      have unfit := passed rival listed
      rw [Json.text?_eq_some_iff.mpr same, beq_self_eq_true] at unfit
      cases unfit
    · exact not_publishes_of_none (unpublished other inSkipped) rival publishes

/-- The key found without an id is the only one that is published. -/
theorem matchKey?_none_eq_some {entries : List Json} {key : Key}
    (matched : matchKey? (entries.filterMap publishedKey?) none = some key) :
    ∃ before entry after, entries = before ++ entry :: after ∧ Publishes entry key ∧
      ∀ other ∈ before ++ after, ∀ rival, ¬ Publishes other rival := by
  unfold matchKey? at matched
  cases single : entries.filterMap publishedKey? with
  | nil =>
    rw [single] at matched
    cases matched
  | cons only others =>
    rw [single] at matched
    cases others with
    | cons => cases matched
    | nil =>
      cases matched
      obtain ⟨before, entry, after, rfl, unpublished, published, nothing⟩ :=
        List.filterMap_eq_cons_iff.mp single
      refine ⟨before, entry, after, rfl, (publishedKey?_eq_some_iff entry key).mp published, ?_⟩
      intro other among rival
      rcases List.mem_append.mp among with inBefore | inAfter
      · exact not_publishes_of_none (unpublished other inBefore) rival
      · exact not_publishes_of_none (List.filterMap_eq_nil_iff.mp nothing other inAfter) rival

/-- What is found among the signing keys of a document is what it selects. -/
theorem selects_of_matchKey? {document : Json} {keys : List Key} {header : List (String × Json)}
    {key : Key} (read : signingKeys document = .ok keys)
    (valid : Signed.hasValidKeyId header = true)
    (matched : matchKey? keys ((Table.lookup? "kid" header).bind Json.text?) = some key) :
    Selects document header key := by
  obtain ⟨members, entries, object, listed, rfl⟩ := signingKeys_eq_ok read
  unfold Signed.hasValidKeyId at valid
  split at valid
  · rename_i unnamed
    rw [unnamed] at matched
    obtain ⟨before, entry, after, rfl, publishes, only⟩ := matchKey?_none_eq_some matched
    exact .sole object listed unnamed publishes only
  · rename_i id names
    have named : Table.lookup? "kid" header = some (.ofText (.whole id)) := names
    rw [names] at matched
    obtain ⟨before, entry, after, rfl, publishes, same, first⟩ := matchKey?_some_eq_some matched
    exact .named object listed named publishes same first
  · rename_i id names
    have named : Table.lookup? "kid" header = some (.ofText (.broken id)) := names
    rw [names] at matched
    obtain ⟨before, entry, after, rfl, publishes, same, first⟩ := matchKey?_some_eq_some matched
    exact .named object listed named publishes same first
  · cases valid

end TenantAccess.Token

import Mathlib.Data.List.Forall2
import Mathlib.Tactic.SplitIfs
import TenantAccess.Text.Utf8

set_option autoImplicit false

namespace TenantAccess.Text.Utf8

/-- Whether bytes are within the bounds that are given for them, one by one. -/
def Within (bounds : List (UInt8 × UInt8)) (bytes : List UInt8) : Prop :=
  List.Forall₂ (fun bound b => bound.1.toNat ≤ b.toNat ∧ b.toNat ≤ bound.2.toNat) bounds bytes

/-- The code that bytes make up behind some bits, six bits each. -/
def joined (bits : Nat) (bytes : List UInt8) : Nat :=
  bytes.foldl (fun code b => code * 64 + (b.toNat - 0x80)) bits

theorem joined_cons (bits : Nat) (b : UInt8) (bytes : List UInt8) :
    joined bits (b :: bytes) = joined (bits * 64 + (b.toNat - 0x80)) bytes := List.foldl_cons ..

theorem joined_nil (bits : Nat) : joined bits [] = bits := rfl

theorem readTails_append {bounds : List (UInt8 × UInt8)} {front : List UInt8}
    (within : Within bounds front) (bits : Nat) (rest : List UInt8) :
    readTails bits bounds (front ++ rest) = (some (joined bits front), front.length) := by
  induction within generalizing bits with
  | nil => rfl
  | @cons bound b bounds front between _ ih =>
    have fits : (bound.1 ≤ b && b ≤ bound.2) = true := by
      simpa only [Bool.and_eq_true, decide_eq_true_eq, UInt8.le_iff_toNat_le] using between
    rw [List.cons_append, readTails, if_pos fits, joined_cons, List.length_cons]
    simp only [ih]

theorem exists_of_readTails {bounds : List (UInt8 × UInt8)} {bits code count : Nat}
    {bytes : List UInt8} (read : readTails bits bounds bytes = (some code, count)) :
    ∃ front rest, bytes = front ++ rest ∧ Within bounds front ∧ code = joined bits front ∧
      count = front.length := by
  induction bounds generalizing bits count bytes with
  | nil =>
    cases read
    exact ⟨[], bytes, rfl, .nil, rfl, rfl⟩
  | cons bound bounds ih =>
    cases bytes with
    | nil => cases read
    | cons b bytes =>
      rw [readTails] at read
      by_cases fits : (bound.1 ≤ b && b ≤ bound.2) = true
      · rw [if_pos fits, Prod.mk.injEq] at read
        obtain ⟨found, counted⟩ := read
        obtain ⟨front, rest, rfl, within, whole, size⟩ := ih (Prod.ext found rfl)
        simp only [Bool.and_eq_true, decide_eq_true_eq, UInt8.le_iff_toNat_le] at fits
        refine ⟨b :: front, rest, rfl, .cons fits within, ?_, ?_⟩
        · rw [whole, joined_cons]
        · rw [← counted, List.length_cons]
          exact congrArg (· + 1) size
      · rw [if_neg fits] at read
        cases read

/-- A first byte and bytes behind it are the sequence of a character. -/
def IsSequence (b : UInt8) (front : List UInt8) (c : Char) : Prop :=
  ∃ lead, lead? b = some lead ∧ Within lead.tails front ∧ c = Char.ofNat (joined lead.bits front)

theorem readChar_append {b : UInt8} {front : List UInt8} {c : Char} (spells : IsSequence b front c)
    (rest : List UInt8) : readChar b (front ++ rest) = (some c, front.length) := by
  obtain ⟨lead, found, within, rfl⟩ := spells
  rw [readChar, found]
  simp only [readTails_append within, Option.map_some]

theorem exists_of_readChar {b : UInt8} {bytes : List UInt8} {c : Char} {count : Nat}
    (read : readChar b bytes = (some c, count)) :
    ∃ front rest, bytes = front ++ rest ∧ count = front.length ∧ IsSequence b front c := by
  unfold readChar at read
  cases found : lead? b with
  | none =>
    rw [found] at read
    cases read
  | some lead =>
    rw [found, Prod.mk.injEq, Option.map_eq_some_iff] at read
    obtain ⟨⟨code, whole, rfl⟩, size⟩ := read
    obtain ⟨front, rest, same, within, rfl, counted⟩ := exists_of_readTails (Prod.ext whole rfl)
    exact ⟨front, rest, same, size.symm.trans counted, lead, found, within, rfl⟩

theorem lead?_eq (b : UInt8) : lead? b =
    if b.toNat ≤ 0x7F then some ⟨b.toNat, []⟩
    else if 0xC2 ≤ b.toNat ∧ b.toNat ≤ 0xDF then some ⟨b.toNat - 0xC0, [tail]⟩
    else if b.toNat = 0xE0 then some ⟨0, [(0xA0, 0xBF), tail]⟩
    else if b.toNat = 0xED then some ⟨0xD, [(0x80, 0x9F), tail]⟩
    else if 0xE1 ≤ b.toNat ∧ b.toNat ≤ 0xEF then some ⟨b.toNat - 0xE0, [tail, tail]⟩
    else if b.toNat = 0xF0 then some ⟨0, [(0x90, 0xBF), tail, tail]⟩
    else if 0xF1 ≤ b.toNat ∧ b.toNat ≤ 0xF3 then some ⟨b.toNat - 0xF0, [tail, tail, tail]⟩
    else if b.toNat = 0xF4 then some ⟨4, [(0x80, 0x8F), tail, tail]⟩
    else none := by
  simp only [lead?, UInt8.le_iff_toNat_le, beq_iff_eq, ← UInt8.toNat_inj, Bool.and_eq_true,
    decide_eq_true_eq]
  rfl

theorem toNat_ofNat {code : Nat} (valid : code.isValidChar) : (Char.ofNat code).toNat = code := by
  rw [Char.ofNat, dif_pos valid]
  rfl

theorem byte_eq {number : Nat} {b : UInt8} (same : number = b.toNat) : UInt8.ofNat number = b := by
  rw [same, UInt8.ofNat_toNat]

theorem utf8EncodeChar_eq (c : Char) : String.utf8EncodeChar c =
    if c.toNat ≤ 0x7F then [.ofNat c.toNat]
    else if c.toNat ≤ 0x7FF then
      [.ofNat (c.toNat / 64 % 32 + 0xC0), .ofNat (c.toNat % 64 + 0x80)]
    else if c.toNat ≤ 0xFFFF then
      [.ofNat (c.toNat / 4096 % 16 + 0xE0), .ofNat (c.toNat / 64 % 64 + 0x80),
        .ofNat (c.toNat % 64 + 0x80)]
    else
      [.ofNat (c.toNat / 262144 % 8 + 0xF0), .ofNat (c.toNat / 4096 % 64 + 0x80),
        .ofNat (c.toNat / 64 % 64 + 0x80), .ofNat (c.toNat % 64 + 0x80)] := rfl

section Encoded

variable {b second third fourth : UInt8} {code : Nat} (valid : code.isValidChar) (bits : Nat)

include valid

theorem utf8EncodeChar_two (first : b.toNat = bits + 0xC0) (least : 2 ≤ bits) (greatest : bits < 32)
    (low : 0x80 ≤ second.toNat) (high : second.toNat ≤ 0xBF)
    (whole : code = bits * 64 + (second.toNat - 0x80)) :
    String.utf8EncodeChar (Char.ofNat code) = [b, second] := by
  rw [utf8EncodeChar_eq, toNat_ofNat valid, if_neg (by omega), if_pos (by omega),
    byte_eq (b := b) (by omega), byte_eq (b := second) (by omega)]

theorem utf8EncodeChar_three (first : b.toNat = bits + 0xE0) (greatest : bits < 16)
    (low : 0x80 ≤ second.toNat) (high : second.toNat ≤ 0xBF)
    (low' : 0x80 ≤ third.toNat) (high' : third.toNat ≤ 0xBF)
    (whole : code = (bits * 64 + (second.toNat - 0x80)) * 64 + (third.toNat - 0x80))
    (large : 0x800 ≤ code) : String.utf8EncodeChar (Char.ofNat code) = [b, second, third] := by
  rw [utf8EncodeChar_eq, toNat_ofNat valid, if_neg (by omega), if_neg (by omega),
    if_pos (by omega), byte_eq (b := b) (by omega), byte_eq (b := second) (by omega),
    byte_eq (b := third) (by omega)]

theorem utf8EncodeChar_four (first : b.toNat = bits + 0xF0) (greatest : bits < 8)
    (low : 0x80 ≤ second.toNat) (high : second.toNat ≤ 0xBF)
    (low' : 0x80 ≤ third.toNat) (high' : third.toNat ≤ 0xBF)
    (low'' : 0x80 ≤ fourth.toNat) (high'' : fourth.toNat ≤ 0xBF)
    (whole : code = ((bits * 64 + (second.toNat - 0x80)) * 64 + (third.toNat - 0x80)) * 64
      + (fourth.toNat - 0x80))
    (large : 0x10000 ≤ code) :
    String.utf8EncodeChar (Char.ofNat code) = [b, second, third, fourth] := by
  rw [utf8EncodeChar_eq, toNat_ofNat valid, if_neg (by omega), if_neg (by omega),
    if_neg (by omega), byte_eq (b := b) (by omega), byte_eq (b := second) (by omega),
    byte_eq (b := third) (by omega), byte_eq (b := fourth) (by omega)]

end Encoded

theorem IsSequence.encoded {b : UInt8} {front : List UInt8} {c : Char}
    (spells : IsSequence b front c) : String.utf8EncodeChar c = b :: front := by
  obtain ⟨lead, found, within, rfl⟩ := spells
  rw [lead?_eq] at found
  split_ifs at found with one two afterE0 afterED three afterF0 four afterF4
  all_goals
    rw [Option.some.injEq] at found
    subst found
    simp only [Within, List.forall₂_cons_left_iff, List.forall₂_nil_left_iff, tail,
      UInt8.reduceToNat] at within
    dsimp only
  · subst within
    have valid : b.toNat.isValidChar := Or.inl (by omega)
    rw [joined_nil, utf8EncodeChar_eq, toNat_ofNat valid, if_pos one, byte_eq rfl]
  · obtain ⟨second, _, ⟨low, high⟩, rfl, rfl⟩ := within
    rw [joined_cons, joined_nil]
    exact utf8EncodeChar_two (.inl (by omega)) (b.toNat - 0xC0) (by omega) (by omega)
      (by omega) low high rfl
  · obtain ⟨second, _, ⟨low, high⟩, ⟨third, _, ⟨low', high'⟩, rfl, rfl⟩, rfl⟩ := within
    rw [joined_cons, joined_cons, joined_nil]
    exact utf8EncodeChar_three (.inl (by omega)) 0 afterE0 (by omega) (by omega) high
      low' high' rfl (by omega)
  · obtain ⟨second, _, ⟨low, high⟩, ⟨third, _, ⟨low', high'⟩, rfl, rfl⟩, rfl⟩ := within
    rw [joined_cons, joined_cons, joined_nil]
    exact utf8EncodeChar_three (.inl (by omega)) 0xD afterED (by omega) low (by omega)
      low' high' rfl (by omega)
  · obtain ⟨second, _, ⟨low, high⟩, ⟨third, _, ⟨low', high'⟩, rfl, rfl⟩, rfl⟩ := within
    rw [joined_cons, joined_cons, joined_nil]
    have valid : (((b.toNat - 0xE0) * 64 + (second.toNat - 0x80)) * 64
        + (third.toNat - 0x80)).isValidChar := by
      unfold Nat.isValidChar
      omega
    exact utf8EncodeChar_three valid (b.toNat - 0xE0) (by omega) (by omega) low high
      low' high' rfl (by omega)
  · obtain ⟨second, _, ⟨low, high⟩, ⟨third, _, ⟨low', high'⟩, ⟨fourth, _, ⟨low'', high''⟩, rfl,
      rfl⟩, rfl⟩, rfl⟩ := within
    rw [joined_cons, joined_cons, joined_cons, joined_nil]
    exact utf8EncodeChar_four (.inr (by omega)) 0 afterF0 (by omega) (by omega) high
      low' high' low'' high'' rfl (by omega)
  · obtain ⟨second, _, ⟨low, high⟩, ⟨third, _, ⟨low', high'⟩, ⟨fourth, _, ⟨low'', high''⟩, rfl,
      rfl⟩, rfl⟩, rfl⟩ := within
    rw [joined_cons, joined_cons, joined_cons, joined_nil]
    exact utf8EncodeChar_four (.inr (by omega)) (b.toNat - 0xF0) (by omega) (by omega)
      low high low' high' low'' high'' rfl (by omega)
  · obtain ⟨second, _, ⟨low, high⟩, ⟨third, _, ⟨low', high'⟩, ⟨fourth, _, ⟨low'', high''⟩, rfl,
      rfl⟩, rfl⟩, rfl⟩ := within
    rw [joined_cons, joined_cons, joined_cons, joined_nil]
    exact utf8EncodeChar_four (.inr (by omega)) 4 afterF4 (by omega) low (by omega)
      low' high' low'' high'' rfl (by omega)

section Decoded

variable {b second third fourth : UInt8} {c : Char}

theorem isSequence_of (bits : Nat) (bounds : List (UInt8 × UInt8)) {front : List UInt8}
    (found : lead? b = some ⟨bits, bounds⟩) (within : Within bounds front)
    (whole : joined bits front = c.toNat) : IsSequence b front c :=
  ⟨_, found, within, by rw [whole, Char.ofNat_toNat]⟩

theorem isSequence_one (small : c.toNat ≤ 0x7F) (first : b.toNat = c.toNat) :
    IsSequence b [] c := by
  refine isSequence_of b.toNat [] ?_ .nil first
  rw [lead?_eq, if_pos (by omega)]

theorem isSequence_two (large : 0x7F < c.toNat) (small : c.toNat ≤ 0x7FF)
    (first : b.toNat = c.toNat / 64 + 0xC0) (next : second.toNat = c.toNat % 64 + 0x80) :
    IsSequence b [second] c := by
  refine isSequence_of (b.toNat - 0xC0) [tail] ?_ (.cons ?_ .nil) ?_
  · rw [lead?_eq, if_neg (by omega), if_pos (by omega)]
  · simp only [tail, UInt8.reduceToNat]
    omega
  · rw [joined_cons, joined_nil]
    omega

theorem isSequence_three (large : 0x7FF < c.toNat) (small : c.toNat ≤ 0xFFFF)
    (first : b.toNat = c.toNat / 4096 + 0xE0) (next : second.toNat = c.toNat / 64 % 64 + 0x80)
    (last : third.toNat = c.toNat % 64 + 0x80) : IsSequence b [second, third] c := by
  have valid : c.toNat < 0xD800 ∨ 0xDFFF < c.toNat ∧ c.toNat < 0x110000 := c.valid
  have whole : joined (b.toNat - 0xE0) [second, third] = c.toNat := by
    rw [joined_cons, joined_cons, joined_nil]
    omega
  -- Two first bytes bound the second one, lest a shorter sequence or a surrogate is spelled.
  by_cases afterE0 : b.toNat = 0xE0
  · refine isSequence_of _ [(0xA0, 0xBF), tail] ?_ (.cons ?_ (.cons ?_ .nil)) whole
    · rw [lead?_eq, if_neg (by omega), if_neg (by omega), if_pos afterE0, afterE0]
    all_goals
      simp only [tail, UInt8.reduceToNat]
      omega
  by_cases afterED : b.toNat = 0xED
  · refine isSequence_of _ [(0x80, 0x9F), tail] ?_ (.cons ?_ (.cons ?_ .nil)) whole
    · rw [lead?_eq, if_neg (by omega), if_neg (by omega), if_neg afterE0, if_pos afterED, afterED]
    all_goals
      simp only [tail, UInt8.reduceToNat]
      omega
  · refine isSequence_of _ [tail, tail] ?_ (.cons ?_ (.cons ?_ .nil)) whole
    · rw [lead?_eq, if_neg (by omega), if_neg (by omega), if_neg afterE0, if_neg afterED,
        if_pos (by omega)]
    all_goals
      simp only [tail, UInt8.reduceToNat]
      omega

theorem isSequence_four (large : 0xFFFF < c.toNat)
    (first : b.toNat = c.toNat / 262144 + 0xF0) (next : second.toNat = c.toNat / 4096 % 64 + 0x80)
    (later : third.toNat = c.toNat / 64 % 64 + 0x80)
    (last : fourth.toNat = c.toNat % 64 + 0x80) : IsSequence b [second, third, fourth] c := by
  have valid : c.toNat < 0xD800 ∨ 0xDFFF < c.toNat ∧ c.toNat < 0x110000 := c.valid
  have whole : joined (b.toNat - 0xF0) [second, third, fourth] = c.toNat := by
    rw [joined_cons, joined_cons, joined_cons, joined_nil]
    omega
  -- Here the bounds exclude shorter sequences and codes beyond the last character.
  by_cases afterF0 : b.toNat = 0xF0
  · refine isSequence_of _ [(0x90, 0xBF), tail, tail] ?_
      (.cons ?_ (.cons ?_ (.cons ?_ .nil))) whole
    · rw [lead?_eq, if_neg (by omega), if_neg (by omega), if_neg (by omega), if_neg (by omega),
        if_neg (by omega), if_pos afterF0, afterF0]
    all_goals
      simp only [tail, UInt8.reduceToNat]
      omega
  by_cases afterF4 : b.toNat = 0xF4
  · refine isSequence_of _ [(0x80, 0x8F), tail, tail] ?_
      (.cons ?_ (.cons ?_ (.cons ?_ .nil))) whole
    · rw [lead?_eq, if_neg (by omega), if_neg (by omega), if_neg (by omega), if_neg (by omega),
        if_neg (by omega), if_neg afterF0, if_neg (by omega), if_pos afterF4, afterF4]
    all_goals
      simp only [tail, UInt8.reduceToNat]
      omega
  · refine isSequence_of _ [tail, tail, tail] ?_
      (.cons ?_ (.cons ?_ (.cons ?_ .nil))) whole
    · rw [lead?_eq, if_neg (by omega), if_neg (by omega), if_neg (by omega), if_neg (by omega),
        if_neg (by omega), if_neg afterF0, if_pos (by omega)]
    all_goals
      simp only [tail, UInt8.reduceToNat]
      omega

end Decoded

theorem exists_isSequence (c : Char) :
    ∃ b front, String.utf8EncodeChar c = b :: front ∧ IsSequence b front c := by
  have valid : c.toNat < 0xD800 ∨ 0xDFFF < c.toNat ∧ c.toNat < 0x110000 := c.valid
  have number {n : Nat} (fits : n < 256) : (UInt8.ofNat n).toNat = n :=
    UInt8.toNat_ofNat_of_lt' fits
  rw [utf8EncodeChar_eq]
  split_ifs with one two three
  · exact ⟨_, [], rfl, isSequence_one one (number (by omega))⟩
  · exact ⟨_, _, rfl, isSequence_two (by omega) two ((number (by omega)).trans (by omega))
      (number (by omega))⟩
  · exact ⟨_, _, rfl, isSequence_three (by omega) three ((number (by omega)).trans (by omega))
      (number (by omega)) (number (by omega))⟩
  · exact ⟨_, _, rfl, isSequence_four (by omega) ((number (by omega)).trans (by omega))
      (number (by omega)) (number (by omega)) (number (by omega))⟩

theorem decodeFrom_flatMap (position : Nat) (cs : List Char) :
    decodeFrom id (fun _ => none) position (cs.flatMap String.utf8EncodeChar) = .ok cs := by
  induction cs generalizing position with
  | nil => rw [List.flatMap_nil, decodeFrom]
  | cons c cs ih =>
    obtain ⟨b, front, encoded, spells⟩ := exists_isSequence c
    rw [List.flatMap_cons, encoded, List.cons_append, decodeFrom, readChar_append spells]
    simp only [List.drop_left, ih]
    rfl

theorem flatMap_of_decodeFrom {position : Nat} {bytes : List UInt8} {cs : List Char}
    (decoded : decodeFrom id (fun _ => none) position bytes = .ok cs) :
    cs.flatMap String.utf8EncodeChar = bytes := by
  -- Each character is encoded as the bytes that it is read from.
  fun_induction decodeFrom id (fun _ => none) position bytes generalizing cs with
  | case1 position =>
    cases decoded
    rfl
  | case2 position b bytes c count read ih =>
    obtain ⟨front, rest, rfl, rfl, spells⟩ := exists_of_readChar read
    rw [List.drop_left] at decoded ih
    cases behind : decodeFrom id (fun _ => none) (position + front.length + 1) rest with
    | error error =>
      rw [behind] at decoded
      cases decoded
    | ok cs =>
      rw [behind] at decoded
      cases decoded
      rw [List.flatMap_cons, id_eq, spells.encoded, ih behind, List.cons_append]
  | case3 position b rest count read unit admitted ih => cases admitted
  | case4 position b rest count read => cases decoded

/-- Bytes are decoded to the text that they encode. -/
theorem decode_eq_ok_iff (bytes : List UInt8) (text : String) :
    decode bytes = .ok text ↔ encode text = bytes := by
  constructor
  · intro decoded
    unfold decode at decoded
    cases read : decodeFrom id (fun _ => none) 0 bytes with
    | error error =>
      rw [read] at decoded
      cases decoded
    | ok cs =>
      rw [read] at decoded
      cases decoded
      rw [encode, String.toList_ofList]
      exact flatMap_of_decodeFrom read
  · rintro rfl
    rw [decode, encode, decodeFrom_flatMap]
    exact congrArg Except.ok String.ofList_toList

theorem toNat_toUInt8 {c : Char} (ascii : c.toNat ≤ 0x7F) : c.toNat.toUInt8.toNat = c.toNat :=
  UInt8.toNat_ofNat_of_lt' (Nat.lt_of_le_of_lt ascii (by decide))

theorem encode_of_ascii {text : String} (ascii : ∀ c ∈ text.toList, c.toNat ≤ 0x7F) :
    encode text = text.toList.map fun c => c.toNat.toUInt8 := by
  rw [encode, ← List.flatMap_singleton' (text.toList.map _), List.flatMap_map]
  exact List.flatMap_congr fun c member => if_pos (ascii c member)

theorem encode_inj (text other : String) : encode text = encode other ↔ text = other := by
  refine ⟨fun same => ?_, congrArg encode⟩
  have decoded := (decode_eq_ok_iff (encode other) text).mpr same
  have again := (decode_eq_ok_iff (encode other) other).mpr rfl
  exact Except.ok.inj (decoded.symm.trans again)

theorem encode_eq_nil_iff (text : String) : encode text = [] ↔ text = "" := encode_inj text ""

end TenantAccess.Text.Utf8

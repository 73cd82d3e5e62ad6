import TenantAccess.Http.Handler
import TenantAccess.Proofs.Trimming

/- Addresses of requests. A host that a request may name, and any server with a name like one, is
the authority of the address and no more, so the path is shown whatever the host. -/

set_option autoImplicit false

namespace TenantAccess

namespace Host

/-- A text without a colon has one group, and an address has at least three. -/
theorem colon_mem_of_isIpv6 {cs : List Char} (literal : isIpv6 cs = true) : ':' ∈ cs := by
  by_contra absent
  have missing : ∀ c ∈ cs.takeWhile (· ≠ '%'), (c == ':') = false := by
    intro c member
    have other : c ≠ ':' := fun same => absent (same ▸ List.takeWhile_subset _ member)
    simpa using other
  unfold isIpv6 groups? splitAt at literal
  rw [List.span_eq_takeWhile_dropWhile] at literal
  simp only [List.splitOnP_eq_singleton missing] at literal
  simp at literal

theorem mem_of_splitAt (mark : Char) {c : Char} (other : c ≠ mark) :
    ∀ {cs : List Char}, c ∈ cs → ∃ part ∈ splitAt mark cs, c ∈ part
  | [], member => absurd member List.not_mem_nil
  | d :: rest, member => by
    rw [splitAt, List.splitOnP_cons_eq_if_modifyHead]
    by_cases marked : d = mark
    · subst marked
      obtain ⟨part, listed, inside⟩ := mem_of_splitAt d other
        ((List.mem_cons.mp member).resolve_left other)
      exact ⟨part, by simpa using Or.inr (by simpa [splitAt] using listed), inside⟩
    · have kept : (d == mark) = false := by simpa using marked
      rw [kept]
      have inner : c ∈ rest → ∃ part ∈ splitAt mark rest, c ∈ part := mem_of_splitAt mark other
      unfold splitAt at inner
      rcases parts : rest.splitOnP (· == mark) with _ | ⟨first, others⟩
      · exact absurd parts (List.splitOnP_ne_nil _ _)
      · rw [parts] at inner
        rcases List.mem_cons.mp member with rfl | later
        · exact ⟨c :: first, by simp, List.mem_cons_self⟩
        · obtain ⟨part, listed, inside⟩ := inner later
          rcases List.mem_cons.mp listed with rfl | behind
          · exact ⟨d :: part, by simp, List.mem_cons_of_mem _ inside⟩
          · exact ⟨part, by simp [behind], inside⟩

theorem colon_not_mem_of_isIpv4 {cs : List Char} (literal : isIpv4 cs = true) : ':' ∉ cs := by
  intro member
  obtain ⟨octet, listed, inside⟩ := mem_of_splitAt '.' (by decide) member
  have octets := List.all_eq_true.mp (Bool.and_eq_true_iff.mp literal).2 octet listed
  unfold isOctet at octets
  simp only [Bool.and_eq_true, List.all_eq_true] at octets
  exact absurd (octets.1.1.1.2 ':' inside) (by decide)

end Host

namespace Address

/-- Whether a character can stand in an authority that is read back as it was written. -/
def isPlaceChar (c : Char) : Bool :=
  !(endsAuthority c || isLineChar c || hiddenMarks.contains c.toNat)

theorem isPlaceChar_iff (c : Char) : isPlaceChar c = true ↔
    endsAuthority c = false ∧ isLineChar c = false ∧ hiddenMarks.contains c.toNat = false := by
  rw [isPlaceChar, Bool.not_eq_true', Bool.or_eq_false_iff, Bool.or_eq_false_iff, and_assoc]

/-- Nothing but brackets can spoil an authority whose characters can all stand there. -/
theorem split_of_place {place path : List Char} (shown : ∀ c ∈ place, isPlaceChar c = true)
    (brackets : checkBrackets place = .ok ()) :
    split (String.ofList ("http://".toList ++ (place ++ '/' :: path))) =
      .ok ⟨"http".toList, place,
        '/' :: (path.filter fun c => !isLineChar c).takeWhile fun c => !endsPath c⟩ := by
  have facts (c : Char) (member : c ∈ place) := (isPlaceChar_iff c).mp (shown c member)
  have unmarked : checkMarks place = .ok () := by
    refine if_neg ?_
    rw [List.any_eq_true]
    rintro ⟨c, member, marked⟩
    rw [(facts c member).2.2] at marked
    cases marked
  have kept : place.filter (fun c => !isLineChar c) = place :=
    List.filter_eq_self.mpr fun c member => by rw [(facts c member).2.1]; rfl
  have authority : splitAuthority ("//".toList ++ (place ++ '/' ::
      path.filter fun c => !isLineChar c)) = (place, '/' :: path.filter fun c => !isLineChar c) := by
    change (place ++ '/' :: _).span (fun c => !endsAuthority c) = _
    refine Text.span_append (fun c member => ?_) fun c head => ?_
    · rw [(facts c member).1]
      rfl
    · cases head
      rfl
  have filtered : (("http://".toList ++ (place ++ '/' :: path)).dropWhile isLead).filter
      (fun c => !isLineChar c) =
        "http:".toList ++ ("//".toList ++ (place ++ '/' :: path.filter fun c => !isLineChar c)) := by
    have front : ("http://".toList ++ (place ++ '/' :: path)).dropWhile isLead =
        "http://".toList ++ (place ++ '/' :: path) := rfl
    rw [front, List.filter_append, List.filter_append, kept]
    rfl
  have scheme (rest : List Char) :
      splitScheme ("http:".toList ++ rest) = ("http".toList, rest) := rfl
  rw [split, String.toList_ofList, filtered, scheme]
  dsimp only
  rw [authority]
  dsimp only
  rw [brackets, unmarked]
  rfl

end Address

namespace Http.Address

open TenantAccess.Address (isPlaceChar isPlaceChar_iff checkBrackets checkLiteral behindLast)

/-- The characters of names and ports, which servers are called by too. -/
def isServerChar (c : Char) : Bool := isNameChar c || c == ':'

theorem isPlaceChar_of_isServerChar {c : Char} (named : isServerChar c = true) :
    isPlaceChar c = true := by
  by_contra hidden
  rw [isPlaceChar, Bool.not_eq_true, Bool.not_eq_false', Bool.or_eq_true, Bool.or_eq_true,
    List.contains_iff_mem] at hidden
  have marks : ∀ code ∈ TenantAccess.Address.hiddenMarks,
      isServerChar (Char.ofNat code) = false := by decide
  rcases hidden with (ends | line) | marked
  · simp only [TenantAccess.Address.endsAuthority, Bool.or_eq_true, beq_iff_eq] at ends
    rcases ends with (rfl | rfl) | rfl <;> exact absurd named (by decide)
  · simp only [TenantAccess.Address.isLineChar, Bool.or_eq_true, beq_iff_eq] at line
    rcases line with (rfl | rfl) | rfl <;> exact absurd named (by decide)
  · have unnamed := marks _ marked
    rw [Char.ofNat_toNat, named] at unnamed
    cases unnamed

theorem checkBrackets_of_names {place : List Char} (named : ∀ c ∈ place, isServerChar c = true) :
    checkBrackets place = .ok () := by
  have absent (c : Char) (other : isServerChar c = false) : c ∉ place := fun member => by
    rw [named c member] at other
    cases other
  have opening : '[' ∉ place := absent _ (by decide)
  have closing : ']' ∉ place := absent _ (by decide)
  rw [checkBrackets, if_neg (fun both => opening both.1),
    if_neg (fun either => either.elim opening closing)]

theorem port_shape {port : List Char} (valid : isPort port = true) :
    (port = [] ∨ port.head? = some ':') ∧ ∀ c ∈ port, isServerChar c = true := by
  unfold isPort at valid
  split at valid
  · exact ⟨Or.inl rfl, fun c member => absurd member List.not_mem_nil⟩
  · next digits =>
    refine ⟨Or.inr rfl, fun c member => ?_⟩
    rcases List.mem_cons.mp member with rfl | inside
    · rfl
    · have digit : c.isDigit = true := List.all_eq_true.mp valid c inside
      simp [isServerChar, isNameChar, Text.Percent.isUnreserved, Char.isAlphanum, digit]
  · cases valid

theorem isServerChar_of_isLiteralChar {c : Char} (literal : isLiteralChar c = true) :
    isServerChar c = true := by
  rw [isLiteralChar, Bool.or_eq_true, Bool.or_eq_true, beq_iff_eq, beq_iff_eq] at literal
  rcases literal with (hex | rfl) | rfl
  · have alphanumeric : c.isAlphanum = true := Text.isAlphanum_of_hexValue? hex
    rw [isServerChar, isNameChar, Text.Percent.isUnreserved, alphanumeric]
    rfl
  · rfl
  · rfl

/-- A literal address in brackets is taken for what it is. -/
theorem checkBrackets_of_literal {literal port : List Char}
    (written : ∀ c ∈ literal, isLiteralChar c = true) (valid : Host.isIpv6 literal = true)
    (numbered : isPort port = true) :
    checkBrackets ('[' :: (literal ++ ']' :: port)) = .ok () := by
  obtain ⟨start, digits⟩ := port_shape numbered
  have other {c : Char} (unwritten : isLiteralChar c = false) : c ∉ literal := fun member => by
    rw [written c member] at unwritten
    cases unwritten
  have noUser : behindLast '@' ('[' :: (literal ++ ']' :: port)) =
      '[' :: (literal ++ ']' :: port) := by
    refine (congrArg _ (List.takeWhile_eq_self_iff.mpr fun c member => ?_)).trans
      (List.reverse_reverse _)
    rw [List.mem_reverse, List.mem_cons, List.mem_append, List.mem_cons] at member
    have unmarked : c ≠ '@' := by
      rintro rfl
      rcases member with same | inside | same | behind
      · exact absurd same (by decide)
      · exact other (by decide) inside
      · exact absurd same (by decide)
      · exact absurd (digits _ behind) (by decide)
    exact decide_eq_true unmarked
  have bracketed : (literal ++ ']' :: port).span (fun c => decide (c ≠ ']')) =
      (literal, ']' :: port) := by
    refine Text.span_append (fun c member => decide_eq_true fun same => ?_) fun c head => ?_
    · exact other (by decide) (same ▸ member)
    · cases head
      rfl
  have accepted : checkLiteral literal = .ok () := by
    have longer : Host.isIpv4 literal = false := by
      by_contra shorter
      exact Host.colon_not_mem_of_isIpv4 (by simpa using shorter) (Host.colon_mem_of_isIpv6 valid)
    unfold checkLiteral
    split
    · exact absurd List.mem_cons_self (other (c := 'v') (by decide))
    · rw [longer, valid]
      rfl
  have opened : ('[' :: (literal ++ ']' :: port)).span (fun c => decide (c ≠ '[')) =
      ([], '[' :: (literal ++ ']' :: port)) := rfl
  have follows : ¬ (([] : List Char) ≠ [] ∨ (port ≠ [] ∧ port.head? ≠ some ':')) := by
    rintro (nothing | ⟨present, unmarked⟩)
    · exact nothing rfl
    · exact start.elim present unmarked
  rw [checkBrackets, if_pos ⟨List.mem_cons_self, by simp⟩, noUser, opened]
  dsimp only
  rw [bracketed]
  exact (if_neg follows).trans accepted

theorem authority_of_isHost {place : List Char} (host : isHost place = true) :
    (∀ c ∈ place, isPlaceChar c = true) ∧ checkBrackets place = .ok () := by
  unfold isHost at host
  split at host
  · next rest =>
    rw [List.span_eq_takeWhile_dropWhile] at host
    dsimp only at host
    split at host
    · next port behind =>
      rw [Bool.and_eq_true] at host
      have whole := List.takeWhile_append_dropWhile (p := isLiteralChar) (l := rest)
      rw [behind] at whole
      have written : ∀ c ∈ rest.takeWhile isLiteralChar, isLiteralChar c = true :=
        fun c member => List.mem_takeWhile_imp member
      refine ⟨fun c member => ?_, ?_⟩
      · rw [← whole, List.mem_cons, List.mem_append, List.mem_cons] at member
        rcases member with rfl | inside | rfl | later
        · decide
        · exact isPlaceChar_of_isServerChar (isServerChar_of_isLiteralChar (written c inside))
        · decide
        · exact isPlaceChar_of_isServerChar ((port_shape host.2).2 c later)
      · rw [← whole]
        exact checkBrackets_of_literal written host.1 host.2
    · cases host
  · rw [List.span_eq_takeWhile_dropWhile, Bool.and_eq_true] at host
    have named : ∀ c ∈ place, isServerChar c = true := by
      intro c member
      rw [← List.takeWhile_append_dropWhile (p := isNameChar) (l := place),
        List.mem_append] at member
      rcases member with inside | later
      · rw [isServerChar, List.mem_takeWhile_imp inside]
        rfl
      · exact (port_shape host.2).2 c later
    exact ⟨fun c member => isPlaceChar_of_isServerChar (named c member),
      checkBrackets_of_names named⟩

theorem endsPath_eq_false_of_mem_encodeChar {c d : Char}
    (member : d ∈ Text.Percent.encodeChar isSafe c) :
    TenantAccess.Address.endsPath d = false := by
  have digits : ∀ value < 16,
      TenantAccess.Address.endsPath (Text.Percent.escapeDigit value) = false := by decide
  rw [Text.Percent.encodeChar] at member
  split at member
  · next safe =>
    rw [List.mem_singleton] at member
    rw [isSafe, Bool.not_eq_true', Bool.or_eq_false_iff, Bool.or_eq_false_iff] at safe
    rw [member, TenantAccess.Address.endsPath, safe.1.1, safe.1.2]
    rfl
  · obtain ⟨byte, -, written⟩ := List.mem_flatMap.mp member
    have small : byte.toNat < 256 := byte.toNat_lt
    simp only [Text.Percent.escapeByte, List.mem_cons, List.not_mem_nil, or_false] at written
    rcases written with rfl | rfl | rfl
    · rfl
    · exact digits _ (by omega)
    · exact digits _ (by omega)

/-- Whatever host a request names, its path is shown as it is written. -/
theorem shownPath_of_place (host : Option String) {server path : String}
    (known : ∀ c ∈ server.toList, isServerChar c = true) {rest : List Char}
    (rooted : path.toList = '/' :: rest) :
    shownPath (place host (some server)) path = .ok (String.ofList
      ('/' :: ((rest.flatMap (Text.Percent.encodeChar isSafe)).filter fun c =>
        !TenantAccess.Address.isLineChar c))) := by
  obtain ⟨authority, named, shown, brackets⟩ : ∃ authority,
      place host (some server) = some authority ∧
      (∀ c ∈ authority.toList, isPlaceChar c = true) ∧
      checkBrackets authority.toList = .ok () := by
    unfold place
    cases chosen : host.filter fun host => isHost host.toList with
    | some name =>
      obtain ⟨-, valid⟩ := Option.filter_eq_some_iff.mp chosen
      exact ⟨name, rfl, authority_of_isHost valid⟩
    | none =>
      exact ⟨server, rfl, fun c member => isPlaceChar_of_isServerChar (known c member),
        checkBrackets_of_names known⟩
  have written : text (some authority) path = String.ofList ("http://".toList ++
      (authority.toList ++ '/' :: rest.flatMap (Text.Percent.encodeChar isSafe))) := by
    rw [text, writtenPath, Text.Percent.encode, rooted, List.flatMap_cons, ← String.toList_inj]
    simp [String.toList_append, Text.Percent.encodeChar, isSafe]
  have whole : ((rest.flatMap (Text.Percent.encodeChar isSafe)).filter fun c =>
      !TenantAccess.Address.isLineChar c).takeWhile
        (fun c => !TenantAccess.Address.endsPath c) =
      (rest.flatMap (Text.Percent.encodeChar isSafe)).filter fun c =>
        !TenantAccess.Address.isLineChar c := by
    refine List.takeWhile_eq_self_iff.mpr fun c member => ?_
    obtain ⟨source, -, inside⟩ := List.mem_flatMap.mp (List.mem_filter.mp member).1
    rw [endsPath_eq_false_of_mem_encodeChar inside]
    rfl
  rw [shownPath, named, written, TenantAccess.Address.split_of_place shown brackets, whole]

end Http.Address

end TenantAccess

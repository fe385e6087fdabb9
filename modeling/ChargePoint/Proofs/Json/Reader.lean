import ChargePoint.Json.Reader
import ChargePoint.Proofs.Json.Numeral
import ChargePoint.Proofs.Outcome

/-!
# What is found in texts

The notation read forwards: a text that is written in one of the forms of the notation is found to
be the document of that form, and what follows it is left.  The parts of a form may be written in
any way in which they are found, and blanks may stand between them.  Read backwards, a number that
is found is a numeral of the text.

## Main definitions

* `Doc.Step.Finds`: what a stage of reading finds, and what it leaves.

## Main results

* `Doc.finds_quoted`, `Doc.finds_number`, `Doc.finds_null`, `Doc.finds_array`, `Doc.finds_object`:
  values.
* `Doc.takes_of_value`: what is found to be a number is a numeral.
* `Doc.finds_close`, `Doc.finds_items`, `Doc.finds_lastItem`, `Doc.finds_nextItem`: the content of
  an array.
* `Doc.finds_closeMembers`, `Doc.finds_members`, `Doc.finds_lastMember`, `Doc.finds_nextMember`: the
  content of an object.
* `Reading.ofString_eq`: the document that a text holds.
-/

namespace ChargePoint

/-- A character that stands for itself in a string. -/
def Quoted.isPlain (c : Char) : Bool := c != '"' && c != '\\' && decide (0x20 ≤ c.toNat)

/-- **A string without escapes** is its characters, up to the quote. -/
theorem Quoted.read_plain {plain : List Char} (h : plain.all isPlain = true) (content : String)
    (rest : List Char) :
    ∃ short, Quoted.read content (plain ++ '"' :: rest) =
      .ok (String.ofList (content.toList ++ plain), ⟨rest, short⟩) := by
  induction plain generalizing content with
  | nil =>
    refine ⟨Nat.lt_succ_self _, ?_⟩
    show Quoted.read content ('"' :: rest) = _
    rw [Quoted.read]
    simp
  | cons c plain ih =>
    obtain ⟨first, others⟩ := Bool.and_eq_true_iff.1 (List.all_cons.symm.trans h)
    simp only [isPlain, Bool.and_eq_true, bne_iff_ne, decide_eq_true_eq] at first
    obtain ⟨⟨quote, escape⟩, visible⟩ := first
    obtain ⟨short, read⟩ := ih others (content.push c)
    rw [String.toList_push, List.append_assoc, List.singleton_append] at read
    refine ⟨Nat.lt_trans short (Nat.lt_succ_self _), ?_⟩
    show Quoted.read content (c :: (plain ++ '"' :: rest)) = _
    rw [Quoted.read, if_neg (by omega), read]
    · rfl
    · exact quote
    · exact escape

/-- Reading goes on with the first character that is no blank. -/
theorem match_skipBlanks {β : Type} {text rest : List Char} {c : Char}
    (h : skipBlanks text = c :: rest) (ended : skipBlanks text = [] → β)
    (next : (c : Char) → (rest : List Char) → skipBlanks text = c :: rest → β) :
    (match h' : skipBlanks text with
      | [] => ended h'
      | c :: rest => next c rest h') = next c rest h := by
  split
  · rename_i h'
    rw [h] at h'
    cases h'
  · rename_i h'
    obtain ⟨rfl, rfl⟩ := List.cons.inj (h.symm.trans h')
    rfl

namespace Doc

variable {α : Type} {depth : Nat} {text rest rest' left : List Char}

/-- **What a stage of reading finds**, and what it leaves of the text. -/
def Step.Finds (step : Step α text) (found : α) (left : List Char) : Prop :=
  ∃ h, step = (found, some ⟨left, h⟩)

/-! ### Values -/

theorem finds_quoted {s : String} (h : skipBlanks text = '"' :: rest)
    (content : Takes (Quoted.read "" rest) s left) :
    Step.Finds (value depth text) (.string s) left := by
  obtain ⟨⟨left, short⟩, content, rfl⟩ := content
  refine ⟨Nat.lt_trans short (length_lt_of_skipBlanks_eq_cons h), ?_⟩
  rw [value]
  refine (match_skipBlanks h _ _).trans ?_
  rw [if_pos rfl]
  simp only [content]
  rfl

theorem finds_string (s : String) (h : skipBlanks text = '"' :: (s.toList ++ '"' :: left))
    (plain : s.toList.all Quoted.isPlain = true) :
    Step.Finds (value depth text) (.string s) left := by
  obtain ⟨short, read⟩ := Quoted.read_plain plain "" left
  rw [String.toList_empty, List.nil_append, String.ofList_toList] at read
  exact finds_quoted h ⟨_, read, rfl⟩

/-- A numeral begins with a digit or a minus, and so nothing else does. -/
theorem finds_number {parts : Numeral} {n : Number} (h : skipBlanks text = rest)
    (read : Takes (Numeral.read rest) parts left) (number : parts.toNumber? = some n) :
    Step.Finds (value depth text) (.number n) left := by
  obtain ⟨⟨left, short⟩, read, rfl⟩ := read
  obtain ⟨c, tail, rfl, opening⟩ := Numeral.opening_of_read read
  have other (d : Char) (h : (decide (d = '-') || d.isDigit) = false) : c ≠ d := by
    rintro rfl
    cases h.symm.trans opening
  have found : Doc.numeral (c :: tail) = (.number n, some ⟨left, short⟩) := by
    rw [Doc.numeral, read]
    simp only [number]
  have shorter := length_lt_of_skipBlanks_eq_cons h
  refine ⟨Nat.lt_of_lt_of_le short shorter, ?_⟩
  rw [value]
  refine (match_skipBlanks h _ _).trans ?_
  rw [if_neg (other '"' rfl), if_neg (other '[' rfl), if_neg (other '\x7b' rfl),
    if_neg (other 'n' rfl), if_neg (other 't' rfl), if_neg (other 'f' rfl), if_pos opening]
  simp only [found]
  rfl

theorem finds_null (h : skipBlanks text = 'n' :: 'u' :: 'l' :: 'l' :: left) :
    Step.Finds (value depth text) .null left := by
  refine ⟨Nat.lt_of_le_of_lt (by simp; omega) (length_lt_of_skipBlanks_eq_cons h), ?_⟩
  rw [value]
  exact match_skipBlanks h _ _

theorem finds_true (h : skipBlanks text = 't' :: 'r' :: 'u' :: 'e' :: left) :
    Step.Finds (value depth text) (.bool true) left := by
  refine ⟨Nat.lt_of_le_of_lt (by simp; omega) (length_lt_of_skipBlanks_eq_cons h), ?_⟩
  rw [value]
  exact match_skipBlanks h _ _

theorem finds_false (h : skipBlanks text = 'f' :: 'a' :: 'l' :: 's' :: 'e' :: left) :
    Step.Finds (value depth text) (.bool false) left := by
  refine ⟨Nat.lt_of_le_of_lt (by simp; omega) (length_lt_of_skipBlanks_eq_cons h), ?_⟩
  rw [value]
  exact match_skipBlanks h _ _

/-- An array is read as its items are, one level further in. -/
theorem finds_array {found : Items} (h : skipBlanks text = '[' :: rest)
    (inner : Step.Finds (items depth rest) found left) :
    Step.Finds (value (depth + 1) text) (.array found) left := by
  obtain ⟨short, inner⟩ := inner
  refine ⟨Nat.lt_trans short (length_lt_of_skipBlanks_eq_cons h), ?_⟩
  rw [value]
  refine (match_skipBlanks h _ _).trans ?_
  rw [if_neg (by decide), if_pos rfl]
  simp only [inner]
  rfl

theorem finds_object {found : Members} (h : skipBlanks text = '\x7b' :: rest)
    (inner : Step.Finds (members depth rest) found left) :
    Step.Finds (value (depth + 1) text) (.object found) left := by
  obtain ⟨short, inner⟩ := inner
  refine ⟨Nat.lt_trans short (length_lt_of_skipBlanks_eq_cons h), ?_⟩
  rw [value]
  refine (match_skipBlanks h _ _).trans ?_
  rw [if_neg (by decide), if_neg (by decide), if_pos rfl]
  simp only [inner]
  rfl

/-- A word is what it means, or broken. -/
theorem word_cases {letters text : List Char} {doc found : Doc} {opening : Opening}
    {after : Option { rest : List Char // rest.length ≤ text.length }}
    (read : word letters text doc opening = (found, after)) :
    found = doc ∨ ∃ fault, found = broken opening fault := by
  induction letters generalizing text found with
  | nil =>
    cases read
    exact .inl rfl
  | cons letter letters ih =>
    cases text with
    | nil =>
      cases read
      exact .inr ⟨_, rfl⟩
    | cons c rest =>
      change (if letter = c then (_, _) else (broken opening .malformed, none)) = _ at read
      split at read
      · cases read
        exact ih rfl
      · cases read
        exact .inr ⟨_, rfl⟩

theorem takes_of_numeral {n : Number} {after : Option (Rest text)}
    (h : numeral text = (.number n, after)) :
    ∃ parts rest, Takes (Numeral.read text) parts rest.1 ∧ parts.toNumber? = some n ∧
      after = some rest := by
  rw [numeral] at h
  split at h
  · cases h
  · rename_i parts rest read
    split at h
    · rename_i number
      cases h
      exact ⟨parts, rest, ⟨_, read, rfl⟩, number, rfl⟩
    · cases h

/-- **What is found to be a number is a numeral.** -/
theorem takes_of_value {n : Number} {after : Option (Rest text)}
    (h : value depth text = (.number n, after)) :
    ∃ parts rest, Takes (Numeral.read (skipBlanks text)) parts rest.1 ∧
      parts.toNumber? = some n ∧ after = some rest := by
  revert h
  fun_cases value depth text
  case case8 | case9 | case10 =>
    intro h
    obtain rfl := congrArg Prod.fst h
    rcases word_cases ‹word _ _ _ _ = _› with h | ⟨fault, h⟩ <;> cases h
  case case11 c rest opened _ _ _ _ _ _ _ _ found tail inner =>
    intro h
    obtain ⟨rfl, same⟩ := Prod.mk.inj h
    obtain ⟨parts, left, read, number, rfl⟩ := takes_of_numeral inner
    rw [opened]
    exact ⟨parts, _, read, number, same.symm⟩
  all_goals exact nofun

/-- Nothing that is closed or has ended begins with a value. -/
theorem not_closed_of_value (h : (value depth text).2 ≠ none) :
    skipBlanks text ≠ [] ∧
      ∀ c rest, c = ']' ∨ c = '\x7d' → skipBlanks text ≠ c :: rest := by
  refine ⟨fun ended => h ?_, fun c rest bracket closed => h ?_⟩
  · rw [value]
    split
    · rfl
    · rename_i opened
      cases ended.symm.trans opened
  · rw [value]
    refine congrArg Prod.snd (match_skipBlanks closed _ _) |>.trans ?_
    rcases bracket with rfl | rfl <;> rfl

/-! ### Arrays -/

theorem finds_close (h : skipBlanks text = ']' :: left) :
    Step.Finds (items depth text) .close left := by
  refine ⟨length_lt_of_skipBlanks_eq_cons h, ?_⟩
  rw [items]
  exact match_skipBlanks h _ _

theorem finds_items {found : Items} {c : Char} (h : skipBlanks text = c :: rest)
    (further : c ≠ ']') (inner : Step.Finds (nextItem depth text) found left) :
    Step.Finds (items depth text) found left := by
  obtain ⟨short, inner⟩ := inner
  refine ⟨short, ?_⟩
  rw [items]
  refine (match_skipBlanks h _ _).trans ?_
  rw [if_neg further, inner]

/-- The content of an array that begins with an item. -/
theorem finds_items_of_nextItem {found : Items}
    (inner : Step.Finds (nextItem depth text) found left) :
    Step.Finds (items depth text) found left := by
  obtain ⟨short, inner⟩ := inner
  refine ⟨short, ?_⟩
  have further := not_closed_of_value fun none => by
    rw [nextItem] at inner
    split at inner
    · cases inner
    · rename_i head after read
      cases none.symm.trans (congrArg Prod.snd read)
  fun_cases items depth text with
  | case1 ended => exact absurd ended further.1
  | case2 rest closed => exact absurd closed (further.2 _ _ (.inl rfl))
  | case3 => exact inner

theorem finds_lastItem {head : Doc} (first : Step.Finds (value depth text) head rest)
    (h : skipBlanks rest = ']' :: left) :
    Step.Finds (nextItem depth text) (.item head .close) left := by
  obtain ⟨short, first⟩ := first
  refine ⟨Nat.lt_trans (length_lt_of_skipBlanks_eq_cons h) short, ?_⟩
  rw [nextItem, first]
  exact match_skipBlanks h _ _

/-- An item is read up to the comma after it, and the others from there. -/
theorem finds_nextItem {head : Doc} {others : Items}
    (first : Step.Finds (value depth text) head rest) (h : skipBlanks rest = ',' :: rest')
    (later : Step.Finds (nextItem depth rest') others left) :
    Step.Finds (nextItem depth text) (.item head others) left := by
  obtain ⟨short, first⟩ := first
  obtain ⟨short', later⟩ := later
  refine ⟨Nat.lt_trans short' (Nat.lt_trans (length_lt_of_skipBlanks_eq_cons h) short), ?_⟩
  rw [nextItem, first]
  refine (match_skipBlanks h _ _).trans ?_
  rw [if_neg (by decide), if_pos rfl]
  simp only [later]
  rfl

/-! ### Objects -/

theorem finds_closeMembers (h : skipBlanks text = '\x7d' :: left) :
    Step.Finds (members depth text) .close left := by
  refine ⟨length_lt_of_skipBlanks_eq_cons h, ?_⟩
  rw [members]
  exact match_skipBlanks h _ _

theorem finds_members {found : Members} (h : skipBlanks text = '"' :: rest)
    (inner : Step.Finds (nextMember depth text) found left) :
    Step.Finds (members depth text) found left := by
  obtain ⟨short, inner⟩ := inner
  refine ⟨short, ?_⟩
  rw [members]
  refine (match_skipBlanks h _ _).trans ?_
  rw [if_neg (by decide), inner]

/-- The content of an object that begins with a member. -/
theorem finds_members_of_nextMember {found : Members}
    (inner : Step.Finds (nextMember depth text) found left) :
    Step.Finds (members depth text) found left := by
  obtain ⟨short, inner⟩ := inner
  refine ⟨short, ?_⟩
  have further := not_closed_of_value fun none => by
    rw [nextMember] at inner
    split at inner
    · rename_i name after read
      cases none.symm.trans (congrArg Prod.snd read)
    · cases inner
  fun_cases members depth text with
  | case1 ended => exact absurd ended further.1
  | case2 rest closed => exact absurd closed (further.2 _ _ (.inr rfl))
  | case3 => exact inner

theorem finds_lastMember {name : String} {content : Doc} {after : List Char}
    (key : Step.Finds (value depth text) (.string name) rest) (h : skipBlanks rest = ':' :: rest')
    (first : Step.Finds (value depth rest') content after)
    (h' : skipBlanks after = '\x7d' :: left) :
    Step.Finds (nextMember depth text) (.member name content .close) left := by
  obtain ⟨short, key⟩ := key
  obtain ⟨short', first⟩ := first
  have shorter := Nat.lt_trans (length_lt_of_skipBlanks_eq_cons h) short
  refine ⟨Nat.lt_trans (length_lt_of_skipBlanks_eq_cons h') (Nat.lt_trans short' shorter), ?_⟩
  rw [nextMember, key]
  refine (match_skipBlanks h _ _).trans ?_
  rw [if_pos rfl]
  simp only [first]
  exact match_skipBlanks h' _ _

/-- A member is read up to the comma after it, and the others from there. -/
theorem finds_nextMember {name : String} {content : Doc} {others : Members}
    {after after' : List Char} (key : Step.Finds (value depth text) (.string name) rest)
    (h : skipBlanks rest = ':' :: rest') (first : Step.Finds (value depth rest') content after)
    (h' : skipBlanks after = ',' :: after')
    (later : Step.Finds (nextMember depth after') others left) :
    Step.Finds (nextMember depth text) (.member name content others) left := by
  obtain ⟨short, key⟩ := key
  obtain ⟨short', first⟩ := first
  obtain ⟨short'', later⟩ := later
  have shorter := Nat.lt_trans (length_lt_of_skipBlanks_eq_cons h) short
  have shorter' := Nat.lt_trans (length_lt_of_skipBlanks_eq_cons h') (Nat.lt_trans short' shorter)
  refine ⟨Nat.lt_trans short'' shorter', ?_⟩
  rw [nextMember, key]
  refine (match_skipBlanks h _ _).trans ?_
  rw [if_pos rfl]
  simp only [first]
  refine (match_skipBlanks h' _ _).trans ?_
  rw [if_neg (by decide), if_pos rfl]
  simp only [later]
  rfl

end Doc

/-- **The document that a text holds**, with nothing but blanks after it. -/
theorem Reading.ofString_eq {text : String} {doc : Doc} {left : List Char}
    (h : Doc.Step.Finds (Doc.value depthLimit text.toList) doc left)
    (ended : skipBlanks left = []) : ofString text = ⟨doc, true⟩ := by
  obtain ⟨short, h⟩ := h
  rw [ofString, h]
  show Reading.mk doc (skipBlanks left).isEmpty = _
  rw [ended]
  rfl

end ChargePoint

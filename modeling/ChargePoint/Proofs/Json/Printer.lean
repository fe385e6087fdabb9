import ChargePoint.Json.Printer
import ChargePoint.Proofs.Json.Depth
import ChargePoint.Proofs.Json.Reader

/-!
# What is printed is read

The layout of a value is read as the value: strings from their escapes, integers from their digits,
and arrays and objects from their entries with commas between them, on lines of their own.  What is
said of a part has to hold wherever the part stands, so it is said up to the blanks around it.

Floats are apart.  They are printed with the fewest digits that tell them from the others, and read
in steps that are each rounded, so that some come back as a neighbour.  Those of a value that come
back as they were are a premise here.

## Main definitions

* `Json.Shown`: a tree is shown by a text wherever it stands.
* `Json.Layout`, `Json.indented`, `Json.tight`: layouts that differ in their blanks.
* `Binary64.ReadsBack`, `Json.FloatsReadBack`: floats that are read back.

## Main results

* `Quoted.takes_escapes`: a string is read from its escapes.
* `Json.finds_listing`, `Json.finds_memberListing`: entries with commas between them are read.
* `Json.shown_array`, `Json.shown_object`, `Json.Layout.shown`: every layout of a tree shows it.
* `Json.parse_pretty`, `Json.parse_compact`: a value is read back from its indented layout, and from
  its compact one.
-/

namespace ChargePoint

namespace Quoted

variable {text left : List Char} {content s : String} {c : Char}

/-! ### Strings -/

theorem hexValue?_digitChar {n : Nat} (h : n < 16) : hexValue? (Nat.digitChar n) = some n := by
  have all : ∀ m < 16, hexValue? (Nat.digitChar m) = some m := by decide
  exact all n h

theorem takes_unicode {n : Nat} (small : n < 0x20) :
    Takes (escaped ('u' :: '0' :: '0' :: Nat.digitChar (n / 16) :: Nat.digitChar (n % 16) :: text))
      (Char.ofNat n) text := by
  have number :
      Takes (unit ('0' :: '0' :: Nat.digitChar (n / 16) :: Nat.digitChar (n % 16) :: text)) n
        text := by
    have zero : hexValue? '0' = some 0 := rfl
    have value : ((16 * 0 + 0) * 16 + n / 16) * 16 + n % 16 = n := by omega
    rw [unit, zero, hexValue?_digitChar (by omega), hexValue?_digitChar (by omega)]
    dsimp only
    rw [value]
    exact ⟨_, rfl, rfl⟩
  obtain ⟨short, number⟩ := number.eq_ok
  have whole : unicode ('0' :: '0' :: Nat.digitChar (n / 16) :: Nat.digitChar (n % 16) :: text) =
      .ok (Char.ofNat n, ⟨text, short⟩) := by
    rw [unicode, number, ok_bind]
    dsimp only
    rw [if_neg (by omega), if_neg (by omega)]
    rfl
  rw [escaped, whole]
  exact ⟨_, rfl, rfl⟩

theorem hex_eq {n : Nat} (large : ¬n < 0x10) (small : n < 0x20) :
    Json.hex n = [Nat.digitChar (n / 16), Nat.digitChar (n % 16)] := by
  rw [Json.hex, Nat.toDigits_of_base_le (by decide) (by omega), Nat.toDigits_of_lt_base (by omega)]
  rfl

/-- **The escapes of characters** are read as the characters. -/
theorem escape_cases (c : Char) :
    (∃ tail, Json.escape c = '\\' :: tail ∧ ∀ text, Takes (escaped (tail ++ text)) c text) ∨
      Json.escape c = [c] ∧ isPlain c = true := by
  fun_cases Json.escape c
  case case1 | case2 | case3 | case4 | case5 | case6 | case7 =>
    subst_vars
    exact .inl ⟨_, rfl, fun text => ⟨⟨text, Nat.lt_succ_self _⟩, rfl, rfl⟩⟩
  case case8 small =>
    have read (text : List Char) : Takes (escaped _) _ text :=
      takes_unicode (Nat.lt_trans small (by decide : 0x10 < 0x20))
    rw [Char.ofNat_toNat, Nat.div_eq_of_lt small, Nat.mod_eq_of_lt small] at read
    rw [Json.hex, Nat.toDigits_of_lt_base small]
    exact .inl ⟨_, rfl, read⟩
  case case9 large small =>
    have read (text : List Char) : Takes (escaped _) _ text := takes_unicode small
    rw [Char.ofNat_toNat] at read
    rw [hex_eq large small]
    exact .inl ⟨_, rfl, read⟩
  case case10 quote slash _ _ _ _ _ _ large =>
    refine .inr ⟨rfl, ?_⟩
    simp [isPlain, quote, slash]
    omega

/-- An escape followed by what continues the string. -/
theorem takes_escape (h : Takes (Quoted.read (content.push c) text) s left) :
    Takes (Quoted.read content (Json.escape c ++ text)) s left := by
  obtain ⟨short, h⟩ := h.eq_ok
  rcases escape_cases c with ⟨tail, escape, read⟩ | ⟨escape, plain⟩
  · obtain ⟨_, read⟩ := (read text).eq_ok
    rw [escape, List.cons_append, Quoted.read, read]
    dsimp only
    rw [h]
    exact ⟨_, rfl, rfl⟩
  · rw [escape]
    simp only [isPlain, Bool.and_eq_true, bne_iff_ne, decide_eq_true_eq] at plain
    obtain ⟨⟨quote, escape⟩, visible⟩ := plain
    show Takes (Quoted.read content (c :: text)) _ _
    rw [Quoted.read, if_neg (by omega), h]
    · exact ⟨_, rfl, rfl⟩
    · exact quote
    · exact escape

/-- **A string is read from its escapes.** -/
theorem takes_escapes (content : String) (others : List Char) :
    Takes (Quoted.read content (others.flatMap Json.escape ++ '"' :: text))
      (String.ofList (content.toList ++ others)) text := by
  induction others generalizing content with
  | nil =>
    rw [List.append_nil, String.ofList_toList]
    show Takes (Quoted.read content ('"' :: text)) _ _
    rw [Quoted.read]
    exact ⟨_, rfl, rfl⟩
  | cons c others ih =>
    have later := ih (content.push c)
    rw [String.toList_push, List.append_assoc, List.singleton_append] at later
    rw [List.flatMap_cons, List.append_assoc]
    exact takes_escape later

end Quoted

namespace Json

theorem toList_foldl_push (others : List Char) (text : String) :
    (others.foldl String.push text).toList = text.toList ++ others := by
  induction others generalizing text with
  | nil => exact (List.append_nil _).symm
  | cons c others ih =>
    rw [List.foldl_cons, ih, String.toList_push, List.append_assoc, List.singleton_append]

theorem toList_quote (s : String) :
    (quote s).toList = '"' :: (s.toList.flatMap escape ++ ['"']) := by
  have inner (others : List Char) (text : String) :
      (others.foldl (fun text c => (escape c).foldl String.push text) text).toList =
        text.toList ++ others.flatMap escape := by
    induction others generalizing text with
    | nil => exact (List.append_nil _).symm
    | cons c others ih =>
      rw [List.foldl_cons, ih, toList_foldl_push, List.append_assoc, List.flatMap_cons]
  rw [quote, String.foldl_eq_foldl_toList, String.toList_append, inner]
  rfl

/-! ### Layout -/

theorem toList_newline (level : Nat) :
    (newline level).toList = '\n' :: List.replicate (2 * level) ' ' := by
  rw [newline, String.pushn_eq_repeat_push]
  induction 2 * level with
  | zero => rfl
  | succ n ih =>
    rw [Nat.repeat, String.toList_push, ih, List.cons_append, List.replicate_succ']

theorem skipBlanks_newline (level : Nat) : skipBlanks (newline level).toList = [] := by
  have all : ∀ c ∈ (newline level).toList, isJsonBlank c = true := by
    intro c member
    rw [toList_newline] at member
    rcases List.mem_cons.1 member with rfl | blank
    · rfl
    · rw [List.eq_of_mem_replicate blank]
      rfl
  rw [skipBlanks, ← List.append_nil (newline level).toList, List.dropWhile_append_of_pos all]
  rfl

/-- Blanks before a text do not count. -/
theorem skipBlanks_append {space : List Char} (blank : skipBlanks space = []) (text : List Char) :
    skipBlanks (space ++ text) = skipBlanks text := by
  rw [skipBlanks, List.dropWhile_append, ← skipBlanks, blank]
  rfl

/-- **A tree is shown by a text** if it is read from it wherever the text stands, up to the blanks
around it and unless a numeral goes on. -/
def Shown (depth : Nat) (v : Json) (shown : List Char) : Prop :=
  ∀ text rest, skipBlanks text = skipBlanks (shown ++ rest) → Numeral.Ends rest →
    ∃ doc left, Doc.Step.Finds (Doc.value depth text) doc left ∧ doc.toTree = .ok v ∧
      skipBlanks left = skipBlanks rest

variable {depth : Nat}

theorem shown_null : Shown depth null "null".toList := by
  intro text rest same ends
  exact ⟨_, rest, Doc.finds_null same, rfl, rfl⟩

theorem shown_bool (b : Bool) : Shown depth (bool b) (if b then "true" else "false").toList := by
  intro text rest same ends
  cases b with
  | false => exact ⟨_, rest, Doc.finds_false same, rfl, rfl⟩
  | true => exact ⟨_, rest, Doc.finds_true same, rfl, rfl⟩

theorem finds_quote {text rest : List Char} (s : String)
    (same : skipBlanks text = skipBlanks ((quote s).toList ++ rest)) :
    Doc.Step.Finds (Doc.value depth text) (.string s) rest := by
  have content : Takes (Quoted.read "" (s.toList.flatMap escape ++ '"' :: rest)) _ rest :=
    Quoted.takes_escapes "" s.toList
  rw [String.toList_empty, List.nil_append, String.ofList_toList] at content
  rw [toList_quote, List.cons_append, List.append_assoc] at same
  exact Doc.finds_quoted same content

theorem shown_string (s : String) : Shown depth (string s) (quote s).toList :=
  fun _ rest same _ => ⟨_, rest, finds_quote s same, rfl, rfl⟩

/-- A numeral is shown by any text from which it is read. -/
theorem shown_number {shown left : List Char} {parts : Numeral} {n : Number}
    (read : Takes (Numeral.read (skipBlanks shown)) parts left) (nothing : skipBlanks left = [])
    (number : parts.toNumber? = some n) : Shown depth (.number n) shown := by
  intro text rest same ends
  obtain ⟨after, read, rfl⟩ := read
  obtain ⟨c, tail, opening, -⟩ := Numeral.opening_of_read read
  have begun : skipBlanks (shown ++ rest) = skipBlanks shown ++ rest := by
    rw [skipBlanks, List.dropWhile_append, ← skipBlanks, opening]
    rfl
  rw [begun] at same
  exact ⟨_, _, Doc.finds_number same (Numeral.read_append ends read) number, rfl,
    skipBlanks_append nothing rest⟩

/-- No blank stands before a numeral. -/
theorem skipBlanks_of_read {text : List Char} {found : Numeral × Rest text}
    (read : Numeral.read text = .ok found) : skipBlanks text = text := by
  obtain ⟨c, tail, rfl, opening⟩ := Numeral.opening_of_read read
  refine List.dropWhile_cons_of_neg fun blank => ?_
  simp only [isJsonBlank, Bool.or_eq_true, decide_eq_true_eq] at blank
  rcases blank with ((rfl | rfl) | rfl) | rfl <;> cases opening

theorem shown_whole (n : Whole) : Shown depth (.number (.whole n)) (toString n.value).toList := by
  obtain ⟨parts, read, number⟩ := n.takes_text Numeral.ends_nil
  rw [List.append_nil] at read
  obtain ⟨after, digits, left⟩ := id read
  rw [← skipBlanks_of_read digits] at read
  exact shown_number read rfl number

theorem ends_of_blank {text : List Char} (blank : skipBlanks text = []) : Numeral.Ends text := by
  cases text with
  | nil => exact Numeral.ends_nil
  | cons c rest =>
    refine Numeral.ends_cons ?_ rest
    rw [skipBlanks, List.dropWhile_cons] at blank
    split at blank
    · rename_i first
      simp only [isJsonBlank, Bool.or_eq_true, decide_eq_true_eq] at first
      rcases first with ((rfl | rfl) | rfl) | rfl <;> rfl
    · cases blank

/-- A numeral ends before blanks that end before a character of no numeral. -/
theorem ends_append {blanks : List Char} {c : Char} (blank : skipBlanks blanks = [])
    (h : Numeral.continues c = false) (rest : List Char) : Numeral.Ends (blanks ++ c :: rest) := by
  cases blanks with
  | nil => exact Numeral.ends_cons h rest
  | cons first others => exact fun d member => ends_of_blank blank d member

/-- **A tree is written by a text that shows it**, with any blanks after it. -/
theorem Shown.writes {v : Json} {text blanks : String}
    (h : Shown Reading.depthLimit v text.toList) (blank : skipBlanks blanks.toList = []) :
    Writes (text ++ blanks) v := by
  obtain ⟨doc, left, found, built, ended⟩ := h (text ++ blanks).toList blanks.toList
    (congrArg skipBlanks String.toList_append) (ends_of_blank blank)
  rw [Writes, Reading.ofString_eq found (ended.trans blank)]
  exact ⟨rfl, built⟩

end Json

/-- **A float that is read back** from its text.  Its text may be carried to its power of ten in
rounded steps that lead to a neighbour instead. -/
def Binary64.ReadsBack (x : Binary64) : Prop :=
  Json.parse (x.text .wire) = .ok (.number (.float x))

/-- A float is read back when its text is a numeral of it, perhaps between blanks. -/
theorem Binary64.readsBack_iff {x : Binary64} :
    x.ReadsBack ↔ ∃ parts left, Takes (Numeral.read (skipBlanks (x.text .wire).toList)) parts left ∧
      skipBlanks left = [] ∧ parts.toNumber? = some (.float x) := by
  constructor
  · intro back
    obtain ⟨tree, ⟨ended, built⟩, same⟩ := parse_eq_ok_iff.1 back
    obtain rfl : tree = .number (.float x) := by
      cases tree with
      | number n => exact same
      | _ => cases same
    cases read : Doc.value Reading.depthLimit (x.text .wire).toList with
    | mk doc after =>
      rw [Reading.ofString, read] at ended built
      obtain rfl : doc = .number (.float x) := Doc.eq_number_of_toTree built
      obtain ⟨parts, left, taken, number, rfl⟩ := Doc.takes_of_value read
      exact ⟨parts, left.1, taken, List.isEmpty_iff.1 ended, number⟩
  · rintro ⟨parts, left, read, nothing, number⟩
    have written : Writes (x.text .wire ++ "") (.number (.float x)) :=
      (Json.shown_number read nothing number).writes rfl
    rw [String.append_empty] at written
    exact parse_eq_ok_iff.2 ⟨_, written, rfl⟩

/-- The exponent of the leading digit counts the digits, before they are made into a string. -/
theorem Binary64.leadingExponent_eq (x : Binary64) : x.leadingExponent =
    Int.ofNat (Nat.toDigits 10 (x.significand * 2 ^ x.exponent.toNat * 10 ^ (400 : Nat) /
      2 ^ (-x.exponent).toNat)).length - 401 := by
  show Int.ofNat (String.ofList _).length - 401 = _
  rw [String.length_ofList]

/-- Not every float is read back: from the text of this one the next below it is read. -/
example : ¬Binary64.ReadsBack ⟨false, 4507218145856087, -22, by decide⟩ := by
  intro back
  have leading : Binary64.leadingExponent ⟨false, 4507218145856087, -22, by decide⟩ = 9 := by
    rw [Binary64.leadingExponent_eq]
    decide +kernel
  have text : Binary64.text .wire ⟨false, 4507218145856087, -22, by decide⟩ =
      "1074604546.0357873" := by
    rw [Binary64.text, Binary64.shortest, leading]
    decide +kernel
  obtain ⟨parts, left, read, -, number⟩ := Binary64.readsBack_iff.1 back
  rw [text] at read
  obtain ⟨after, read, -⟩ := read
  have parts_eq : parts = ⟨false, "1074604546".toList, some "0357873".toList, none⟩ :=
    congrArg Prod.fst (Except.ok.inj read.symm)
  revert number
  rw [parts_eq]
  decide +kernel

namespace Json

variable {depth : Nat}

/-- A float that is read back is shown by its text. -/
theorem shown_float {x : Binary64} (back : x.ReadsBack) :
    Shown depth (.number (.float x)) (x.text .wire).toList := by
  obtain ⟨parts, left, read, nothing, number⟩ := Binary64.readsBack_iff.1 back
  exact shown_number read nothing number

/-! ### Arrays and objects -/

/-- Entries with commas between them, and what comes after the last. -/
def listing (space final : List Char) (entries : List (List Char)) : List Char :=
  (',' :: space).intercalate entries ++ final

theorem listing_singleton (space final entry : List Char) :
    listing space final [entry] = entry ++ final := by
  rw [listing, List.intercalate_singleton]

theorem listing_cons_cons (space final entry next : List Char) (others : List (List Char)) :
    listing space final (entry :: next :: others) =
      entry ++ ',' :: (space ++ listing space final (next :: others)) := by
  rw [listing, List.intercalate_cons_cons, List.append_assoc, List.append_assoc, List.cons_append,
    listing]

/-- A member in a text: its name, a colon, and its value after a gap. -/
def memberText (gap : List Char) (p : Json → List Char) (entry : String × Json) : List Char :=
  (quote entry.1).toList ++ ':' :: (gap ++ p entry.2)

/-- **Entries between brackets**, with commas between them, the same blanks before each, and others
before the closing bracket.  Nothing stands between the brackets where there is no entry. -/
def bracketed (opening closing : Char) (space final : List Char) : List (List Char) → List Char
  | [] => [opening, closing]
  | entry :: others => opening :: (space ++ listing space (final ++ [closing]) (entry :: others))

section Listing

variable {space final gap left text : List Char} {p : Json → List Char}

theorem bracketed_cons_append (opening closing : Char) (entry : List Char)
    (others : List (List Char)) (rest : List Char) :
    bracketed opening closing space final (entry :: others) ++ rest =
      opening :: (space ++ listing space (final ++ closing :: rest) (entry :: others)) := by
  simp only [bracketed, listing, List.cons_append, List.append_assoc, List.nil_append]

/-- **The items of an array are read** where each is shown by its text. -/
theorem finds_listing (blank : skipBlanks space = []) (closing : skipBlanks final = ']' :: left)
    (ends : Numeral.Ends final) (item : Json) (others : List Json)
    (shown : ∀ v ∈ item :: others, Shown depth v (p v))
    (same : skipBlanks text = skipBlanks (listing space final ((item :: others).map p))) :
    ∃ found, Doc.Step.Finds (Doc.nextItem depth text) found left ∧
      Doc.toTrees found = .ok (item :: others) := by
  obtain ⟨first, later⟩ := List.forall_mem_cons.1 shown
  induction others generalizing item text with
  | nil =>
    rw [List.map_singleton, listing_singleton] at same
    obtain ⟨doc, after, found, built, rest⟩ := first text final same ends
    exact ⟨_, Doc.finds_lastItem found (rest.trans closing),
      Doc.toTrees_item_eq_ok_iff.2 ⟨_, built, _, rfl, rfl⟩⟩
  | cons next others ih =>
    rw [List.map_cons, List.map_cons, listing_cons_cons] at same
    obtain ⟨doc, after, found, built, rest⟩ := first text _ same (Numeral.ends_cons rfl _)
    obtain ⟨second, last⟩ := List.forall_mem_cons.1 later
    obtain ⟨items, further, parts⟩ := ih next later (skipBlanks_append blank _) second last
    exact ⟨_, Doc.finds_nextItem found rest further,
      Doc.toTrees_item_eq_ok_iff.2 ⟨_, built, _, parts, rfl⟩⟩

/-- **The members of an object are read** where each value is shown by its text. -/
theorem finds_memberListing (blank : skipBlanks space = []) (between : skipBlanks gap = [])
    (closing : skipBlanks final = '\x7d' :: left) (ends : Numeral.Ends final)
    (entry : String × Json) (others : List (String × Json))
    (shown : ∀ e ∈ entry :: others, Shown depth e.2 (p e.2))
    (same : skipBlanks text =
      skipBlanks (listing space final ((entry :: others).map (memberText gap p)))) :
    ∃ found, Doc.Step.Finds (Doc.nextMember depth text) found left ∧
      Doc.toEntries found = .ok (entry :: others) := by
  obtain ⟨first, later⟩ := List.forall_mem_cons.1 shown
  induction others generalizing entry text with
  | nil =>
    rw [List.map_singleton, listing_singleton, memberText, List.append_assoc, List.cons_append,
      List.append_assoc] at same
    have key : Doc.Step.Finds (Doc.value depth text) (.string entry.1) _ :=
      finds_quote entry.1 same
    obtain ⟨doc, after, found, built, rest⟩ :=
      first (gap ++ (p entry.2 ++ final)) final (skipBlanks_append between _) ends
    exact ⟨_, Doc.finds_lastMember key rfl found (rest.trans closing),
      Doc.toEntries_member_eq_ok_iff.2 ⟨_, built, _, rfl, rfl⟩⟩
  | cons next others ih =>
    rw [List.map_cons, List.map_cons, listing_cons_cons, memberText, List.append_assoc,
      List.cons_append, List.append_assoc] at same
    have key : Doc.Step.Finds (Doc.value depth text) (.string entry.1) _ :=
      finds_quote entry.1 same
    obtain ⟨doc, after, found, built, rest⟩ :=
      first (gap ++ (p entry.2 ++ _)) _ (skipBlanks_append between _)
        (Numeral.ends_cons (c := ',') rfl _)
    obtain ⟨second, last⟩ := List.forall_mem_cons.1 later
    obtain ⟨members, further, parts⟩ := ih next later (skipBlanks_append blank _) second last
    exact ⟨_, Doc.finds_nextMember key rfl found rest further,
      Doc.toEntries_member_eq_ok_iff.2 ⟨_, built, _, parts, rfl⟩⟩

/-- **An array is shown by its items between brackets** if each item is shown by its text. -/
theorem shown_array {items : List Json} (blank : skipBlanks space = [])
    (last : skipBlanks final = []) (shown : ∀ v ∈ items, Shown depth v (p v)) :
    Shown (depth + 1) (array items) (bracketed '[' ']' space final (items.map p)) := by
  intro text rest same ends
  cases items with
  | nil => exact ⟨_, rest, Doc.finds_array same (Doc.finds_close rfl), rfl, rfl⟩
  | cons item others =>
    rw [List.map_cons, bracketed_cons_append, ← List.map_cons] at same
    have closing : skipBlanks (final ++ ']' :: rest) = ']' :: rest := skipBlanks_append last _
    obtain ⟨found, read, parts⟩ := finds_listing blank closing (ends_append last rfl rest) item
      others shown (skipBlanks_append blank _)
    exact ⟨_, rest, Doc.finds_array same (Doc.finds_items_of_nextItem read),
      Doc.toTree_array_eq_ok_iff.2 ⟨_, parts, rfl⟩, rfl⟩

/-- **An object is shown by its members between braces** if each value is shown by its text. -/
theorem shown_object {members : List (String × Json)} (blank : skipBlanks space = [])
    (between : skipBlanks gap = []) (last : skipBlanks final = [])
    (shown : ∀ entry ∈ members, Shown depth entry.2 (p entry.2)) :
    Shown (depth + 1) (object members)
      (bracketed '\x7b' '\x7d' space final (members.map (memberText gap p))) := by
  intro text rest same ends
  cases members with
  | nil => exact ⟨_, rest, Doc.finds_object same (Doc.finds_closeMembers rfl), rfl, rfl⟩
  | cons entry others =>
    rw [List.map_cons, bracketed_cons_append, ← List.map_cons] at same
    have closing : skipBlanks (final ++ '\x7d' :: rest) = '\x7d' :: rest :=
      skipBlanks_append last _
    obtain ⟨found, read, parts⟩ := finds_memberListing blank between closing
      (ends_append last rfl rest) entry others shown (skipBlanks_append blank _)
    exact ⟨_, rest, Doc.finds_object same (Doc.finds_members_of_nextMember read),
      Doc.toTree_object_eq_ok_iff.2 ⟨_, parts, rfl⟩, rfl⟩

end Listing

/-! ### Trees -/

mutual

/-- **Every float of the tree is read back** from its text. -/
def FloatsReadBack : Json → Prop
  | number (.float x) => x.ReadsBack
  | array items => FloatsReadBackItems items
  | object members => FloatsReadBackMembers members
  | _ => True

/-- Every float of every item is read back. -/
def FloatsReadBackItems : List Json → Prop
  | [] => True
  | item :: rest => FloatsReadBack item ∧ FloatsReadBackItems rest

/-- Every float of every value is read back. -/
def FloatsReadBackMembers : List (String × Json) → Prop
  | [] => True
  | (_, value) :: rest => FloatsReadBack value ∧ FloatsReadBackMembers rest

end

theorem floatsReadBack_array_iff {items : List Json} :
    (array items).FloatsReadBack ↔ ∀ item ∈ items, item.FloatsReadBack := by
  rw [FloatsReadBack]
  induction items with
  | nil => simp [FloatsReadBackItems]
  | cons item rest ih => rw [FloatsReadBackItems, ih, List.forall_mem_cons]

theorem floatsReadBack_object_iff {members : List (String × Json)} :
    (object members).FloatsReadBack ↔ ∀ entry ∈ members, entry.2.FloatsReadBack := by
  rw [FloatsReadBack]
  induction members with
  | nil => simp [FloatsReadBackMembers]
  | cons entry rest ih =>
    obtain ⟨name, value⟩ := entry
    rw [FloatsReadBackMembers, ih, List.forall_mem_cons]

/-- **A layout of trees**: the text of one that starts at a level, from the texts of its parts one
level further in.  Blanks stand before each entry, before the bracket that closes them, and before
the value of a member. -/
structure Layout where
  text : Nat → Json → List Char
  entry : Nat → List Char
  closing : Nat → List Char
  value : List Char
  entry_blank : ∀ level, skipBlanks (entry level) = []
  closing_blank : ∀ level, skipBlanks (closing level) = []
  value_blank : skipBlanks value = []
  text_null : ∀ level, text level null = "null".toList
  text_bool : ∀ level b, text level (bool b) = (if b then "true" else "false").toList
  text_number : ∀ level n, text level (number n) = n.text.toList
  text_string : ∀ level s, text level (string s) = (quote s).toList
  text_array : ∀ level items, text level (array items) =
    bracketed '[' ']' (entry level) (closing level) (items.map (text (level + 1)))
  text_object : ∀ level members, text level (object members) =
    bracketed '\x7b' '\x7d' (entry level) (closing level)
      (members.map (memberText value (text (level + 1))))

/-- **Every layout of a tree shows it**, at any level. -/
theorem Layout.shown (l : Layout) (level : Nat) (v : Json) (shallow : v.depth ≤ depth)
    (floats : v.FloatsReadBack) : Shown depth v (l.text level v) := by
  induction v using inductionOn generalizing level depth with
  | null =>
    rw [l.text_null]
    exact shown_null
  | bool b =>
    rw [l.text_bool]
    exact shown_bool b
  | number n =>
    rw [l.text_number]
    cases n with
    | whole n => exact shown_whole n
    | float x => exact shown_float floats
  | string s =>
    rw [l.text_string]
    exact shown_string s
  | array items ih =>
    cases depth with
    | zero => exact absurd shallow (Nat.not_succ_le_zero _)
    | succ depth =>
      rw [depth_array_le_iff] at shallow
      rw [floatsReadBack_array_iff] at floats
      rw [l.text_array]
      exact shown_array (l.entry_blank level) (l.closing_blank level)
        fun v member => ih v member (level + 1) (shallow v member) (floats v member)
  | object members ih =>
    cases depth with
    | zero => exact absurd shallow (Nat.not_succ_le_zero _)
    | succ depth =>
      rw [depth_object_le_iff] at shallow
      rw [floatsReadBack_object_iff] at floats
      rw [l.text_object]
      exact shown_object (l.entry_blank level) l.value_blank (l.closing_blank level)
        fun e member => ih e member (level + 1) (shallow e member) (floats e member)

/-! ### The indented layout -/

theorem prettyItems_eq_map (level : Nat) (items : List Json) :
    prettyItems level items = items.map (prettyAt level) := by
  induction items with
  | nil => rfl
  | cons item rest ih => rw [prettyItems, ih, List.map_cons]

theorem prettyMembers_eq_map (level : Nat) (members : List (String × Json)) :
    prettyMembers level members =
      members.map fun entry => quote entry.1 ++ ": " ++ prettyAt level entry.2 := by
  induction members with
  | nil => rfl
  | cons entry rest ih =>
    obtain ⟨name, value⟩ := entry
    rw [prettyMembers, ih, List.map_cons]

theorem toList_block (level : Nat) (opening closing : Char) (entries : List String) :
    (block level (String.singleton opening) (String.singleton closing) entries).toList =
      bracketed opening closing (newline (level + 1)).toList (newline level).toList
        (entries.map String.toList) := by
  cases entries with
  | nil =>
    rw [block, List.isEmpty_nil, if_pos rfl, String.toList_append, String.toList_singleton,
      String.toList_singleton]
    rfl
  | cons entry others =>
    rw [block, List.isEmpty_cons, if_neg Bool.false_ne_true, List.map_cons, bracketed,
      ← List.map_cons]
    simp only [String.toList_append, String.toList_intercalate, String.toList_singleton, listing,
      List.append_assoc, List.cons_append, List.nil_append]
    rfl

theorem toList_member (p : Json → String) {separator : String} {gap : List Char}
    (h : separator.toList = ':' :: gap) :
    (String.toList ∘ fun entry => quote entry.1 ++ separator ++ p entry.2) =
      memberText gap fun v => (p v).toList := by
  funext entry
  simp only [memberText, Function.comp_apply, String.toList_append, h, List.append_assoc,
    List.cons_append]

/-- **Lines of their own** for the entries of arrays and objects. -/
def indented : Layout where
  text level v := (prettyAt level v).toList
  entry level := (newline (level + 1)).toList
  closing level := (newline level).toList
  value := [' ']
  entry_blank level := skipBlanks_newline (level + 1)
  closing_blank := skipBlanks_newline
  value_blank := rfl
  text_null _ := rfl
  text_bool _ _ := rfl
  text_number _ _ := rfl
  text_string _ _ := rfl
  text_array level items := by
    have whole := toList_block level '[' ']' (prettyItems (level + 1) items)
    rw [prettyItems_eq_map, List.map_map] at whole
    rw [prettyAt, prettyItems_eq_map]
    exact whole
  text_object level members := by
    have whole := toList_block level '\x7b' '\x7d' (prettyMembers (level + 1) members)
    rw [prettyMembers_eq_map, List.map_map, toList_member _ rfl] at whole
    rw [prettyAt, prettyMembers_eq_map]
    exact whole

/-- **The indented layout of a tree writes it**, with any blanks after it. -/
theorem writes_pretty {v : Json} (shallow : v.depth ≤ Reading.depthLimit)
    (floats : v.FloatsReadBack) {blanks : String} (blank : skipBlanks blanks.toList = []) :
    Writes (v.pretty ++ blanks) v :=
  (indented.shown 0 v shallow floats).writes blank

/-- **A value is read back from its indented layout.** -/
theorem parse_pretty {v : Json} (canonical : v.Canonical) (shallow : v.depth ≤ Reading.depthLimit)
    (floats : v.FloatsReadBack) {blanks : String} (blank : skipBlanks blanks.toList = []) :
    parse (v.pretty ++ blanks) = .ok v :=
  parse_eq_ok_iff.2 ⟨v, writes_pretty shallow floats blank, canonical_of_canonical canonical⟩

/-! ### The compact layout -/

theorem compactItems_eq_map (items : List Json) : compactItems items = items.map compact := by
  induction items with
  | nil => rfl
  | cons item rest ih => rw [compactItems, ih, List.map_cons]

theorem compactMembers_eq_map (members : List (String × Json)) :
    compactMembers members = members.map fun entry => quote entry.1 ++ ":" ++ compact entry.2 := by
  induction members with
  | nil => rfl
  | cons entry rest ih =>
    obtain ⟨name, value⟩ := entry
    rw [compactMembers, ih, List.map_cons]

theorem toList_intercalate_comma (opening closing : Char) (entries : List String) :
    (String.singleton opening ++ ",".intercalate entries ++ String.singleton closing).toList =
      bracketed opening closing [] [] (entries.map String.toList) := by
  simp only [String.toList_append, String.toList_intercalate, String.toList_singleton,
    List.cons_append, List.nil_append]
  cases entries <;> rfl

/-- **No blank anywhere**, and no level. -/
def tight : Layout where
  text _ v := v.compact.toList
  entry _ := []
  closing _ := []
  value := []
  entry_blank _ := rfl
  closing_blank _ := rfl
  value_blank := rfl
  text_null _ := rfl
  text_bool _ _ := rfl
  text_number _ _ := rfl
  text_string _ _ := rfl
  text_array _ items := by
    have whole := toList_intercalate_comma '[' ']' (compactItems items)
    rw [compactItems_eq_map, List.map_map] at whole
    rw [compact, compactItems_eq_map]
    exact whole
  text_object _ members := by
    have whole := toList_intercalate_comma '\x7b' '\x7d' (compactMembers members)
    rw [compactMembers_eq_map, List.map_map, toList_member _ rfl] at whole
    rw [compact, compactMembers_eq_map]
    exact whole

/-- **The compact layout of a tree writes it**, with any blanks after it. -/
theorem writes_compact {v : Json} (shallow : v.depth ≤ Reading.depthLimit)
    (floats : v.FloatsReadBack) {blanks : String} (blank : skipBlanks blanks.toList = []) :
    Writes (v.compact ++ blanks) v :=
  (tight.shown 0 v shallow floats).writes blank

/-- **A value is read back from its compact layout.** -/
theorem parse_compact {v : Json} (canonical : v.Canonical) (shallow : v.depth ≤ Reading.depthLimit)
    (floats : v.FloatsReadBack) {blanks : String} (blank : skipBlanks blanks.toList = []) :
    parse (v.compact ++ blanks) = .ok v :=
  parse_eq_ok_iff.2 ⟨v, writes_compact shallow floats blank, canonical_of_canonical canonical⟩

end Json

end ChargePoint

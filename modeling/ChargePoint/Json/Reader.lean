import ChargePoint.Json.Quoted

/-!
# Reading documents

Text becomes a document by reading it from left to right.  Every step takes at least one character
and hands on what is left, so reading ends; where the text stops making sense the document says so
and nothing is left.

Containers may be nested to a depth of `127`.  One level deeper, a bracket still begins a container,
but its content is a fault.

## Main definitions

* `Reading`: a document, and whether the text ends with it.
* `Reading.ofString`: the document that a text begins with.
* `Json.parse`: the value of a text that holds one document and nothing else.
-/

namespace ChargePoint

/-- The blanks between the parts of a document: space, tab and the two line ends. -/
def isJsonBlank (c : Char) : Bool := c = ' ' || c = '\t' || c = '\n' || c = '\x0d'

/-- A text without the blanks at its start. -/
def skipBlanks (text : List Char) : List Char := text.dropWhile isJsonBlank

theorem length_skipBlanks_le (text : List Char) : (skipBlanks text).length ≤ text.length :=
  Numeral.length_dropWhile_le _ _

theorem length_lt_of_skipBlanks_eq_cons {text rest : List Char} {c : Char}
    (h : skipBlanks text = c :: rest) : rest.length < text.length := by
  have := length_skipBlanks_le text
  simp only [h, List.length_cons] at this
  omega

namespace Doc

/-- A stage of reading: what was found, and what is left unless the text stopped making sense. -/
abbrev Step (α : Type) (text : List Char) : Type := α × Option (Rest text)

/-- The rest of a word, letter by letter. -/
def word (letters text : List Char) (doc : Doc) (opening : Opening) :
    Doc × Option { rest : List Char // rest.length ≤ text.length } :=
  match letters, text with
  | [], rest => (doc, some ⟨rest, Nat.le_refl _⟩)
  | _ :: _, [] => (.broken opening .truncated, none)
  | letter :: letters, c :: rest =>
    if letter = c then
      let (found, after) := word letters rest doc opening
      (found, after.map fun tail => ⟨tail.1, Nat.le_succ_of_le tail.2⟩)
    else (.broken opening .malformed, none)

/-- The numeral at the start of a text, as a document. -/
def numeral (text : List Char) : Step Doc text :=
  match Numeral.read text with
  | .error fault => (.broken .other fault, none)
  | .ok (parts, rest) =>
    match parts.toNumber? with
    | some n => (.number n, some rest)
    | none => (.broken .other .malformed, none)

mutual

/-- **A value**, with containers nested at most `depth` deep. -/
def value (depth : Nat) (text : List Char) : Step Doc text :=
  match h : skipBlanks text with
  | [] => (.broken .nothing .truncated, none)
  | c :: rest =>
    have shorter : rest.length < text.length := length_lt_of_skipBlanks_eq_cons h
    if c = '"' then
      match Quoted.read "" rest with
      | .error fault => (.broken .quote fault, none)
      | .ok (content, after) => (.string content, some (after.ofShorter (Nat.le_of_lt shorter)))
    else if c = '[' then
      match depth with
      | 0 => (.array (.cut .malformed), none)
      | depth + 1 =>
        let (items, after) := items depth rest
        (.array items, after.map (Rest.ofShorter (Nat.le_of_lt shorter)))
    else if c = '\x7b' then
      match depth with
      | 0 => (.object (.cut .malformed), none)
      | depth + 1 =>
        let (members, after) := members depth rest
        (.object members, after.map (Rest.ofShorter (Nat.le_of_lt shorter)))
    else if c = 'n' then
      let (found, after) := word "ull".toList rest .null .letterN
      (found, after.map fun tail => ⟨tail.1, Nat.lt_of_le_of_lt tail.2 shorter⟩)
    else if c = 't' then
      let (found, after) := word "rue".toList rest (.bool true) .other
      (found, after.map fun tail => ⟨tail.1, Nat.lt_of_le_of_lt tail.2 shorter⟩)
    else if c = 'f' then
      let (found, after) := word "alse".toList rest (.bool false) .other
      (found, after.map fun tail => ⟨tail.1, Nat.lt_of_le_of_lt tail.2 shorter⟩)
    else if c = '-' || c.isDigit then
      let (found, after) := numeral (c :: rest)
      (found, after.map (Rest.ofShorter (by simp; omega)))
    else (.broken .nothing .malformed, none)
termination_by (text.length, 0)

/-- The content of an array, from what follows its bracket. -/
def items (depth : Nat) (text : List Char) : Step Items text :=
  match h : skipBlanks text with
  | [] => (.cut .truncated, none)
  | c :: rest =>
    if c = ']' then (.close, some ⟨rest, length_lt_of_skipBlanks_eq_cons h⟩)
    else nextItem depth text
termination_by (text.length, 2)

/-- An item and those after it. -/
def nextItem (depth : Nat) (text : List Char) : Step Items text :=
  match value depth text with
  | (head, none) => (.item head .close, none)
  | (head, some after) =>
    match h : skipBlanks after.1 with
    | [] => (.item head (.cut .truncated), none)
    | c :: rest =>
      have shorter : rest.length < text.length :=
        Nat.lt_trans (length_lt_of_skipBlanks_eq_cons h) after.2
      if c = ']' then (.item head .close, some ⟨rest, shorter⟩)
      else if c = ',' then
        let (others, final) := nextItem depth rest
        (.item head others, final.map (Rest.ofShorter (Nat.le_of_lt shorter)))
      else (.item head (.cut .malformed), none)
termination_by (text.length, 1)

/-- The content of an object, from what follows its bracket. -/
def members (depth : Nat) (text : List Char) : Step Members text :=
  match h : skipBlanks text with
  | [] => (.cut .truncated, none)
  | c :: rest =>
    if c = '\x7d' then (.close, some ⟨rest, length_lt_of_skipBlanks_eq_cons h⟩)
    else nextMember depth text
termination_by (text.length, 2)

/-- A member and those after it.  What stands in the place of its name is looked at as a value
where it is none. -/
def nextMember (depth : Nat) (text : List Char) : Step Members text :=
  match value depth text with
  | (.string name, some after) =>
    match h : skipBlanks after.1 with
    | [] => (.member name (.broken .nothing .truncated) .close, none)
    | c :: rest =>
      have shorter : rest.length < text.length :=
        Nat.lt_trans (length_lt_of_skipBlanks_eq_cons h) after.2
      if c = ':' then
        match value depth rest with
        | (content, none) => (.member name content .close, none)
        | (content, some afterContent) =>
          match h' : skipBlanks afterContent.1 with
          | [] => (.member name content (.cut .truncated), none)
          | c' :: rest' =>
            have shorter' : rest'.length < text.length :=
              Nat.lt_trans (length_lt_of_skipBlanks_eq_cons h')
                (Nat.lt_trans afterContent.2 shorter)
            if c' = '\x7d' then (.member name content .close, some ⟨rest', shorter'⟩)
            else if c' = ',' then
              let (others, final) := nextMember depth rest'
              (.member name content others, final.map (Rest.ofShorter (Nat.le_of_lt shorter')))
            else (.member name content (.cut .malformed), none)
      else (.member name (.broken .nothing .malformed) .close, none)
  | (key, _) => (.stray key, none)
termination_by (text.length, 1)

end

end Doc

/-- **What a text holds**: a document, and whether nothing but blanks follows it. -/
structure Reading where
  doc : Doc
  ended : Bool

namespace Reading

/-- The greatest depth of nested containers. -/
def depthLimit : Nat := 127

/-- The document that a text begins with. -/
def ofString (text : String) : Reading :=
  let (doc, rest) := Doc.value depthLimit text.toList
  ⟨doc, rest.all fun left => (skipBlanks left.1).isEmpty⟩

end Reading

/-- **The value of a text** that holds one document and nothing else. -/
def Json.parse (text : String) : Except TextFault Json := do
  let reading := Reading.ofString text
  let v ← reading.doc.toJson
  if reading.ended then return v else .error .malformed

end ChargePoint

import SqlFormula.Eval
import SqlFormula.Proofs.Parse.Continuation
import SqlFormula.Proofs.Parse.Modes
import SqlFormula.Proofs.Text.Parts
import SqlFormula.Proofs.Token.Spelling

/-!
# Paths as formulas

A path is a name with further segments behind points: names, and indices into arrays. A field is found by its path
segment by segment. The text of a path is a formula if all segments are names. A point with an index behind it is read
as a number, with which no formula goes on. An index between quotes is a name.

## Main definitions

- `FieldName`, `ArrayIndex`, `FieldSegment`, `FieldPath` — paths and what they are made of
- `FieldPath.written` — a path as text, with quotes around indices or without

## Main statements

- `FieldPath.field?_text` — the value to which the segments lead
- `FieldPath.tokenize_written` — the tokens of a path
- `FieldPath.parseFormula_written`, `FieldPath.parseFormula_index` — paths that are formulas, and those that are not
- `FieldPath.eval_of_field` — the value of a path that is a formula
-/

namespace SqlFormula

open Text Lexeme Spelling

/-! ### Paths -/

/-- A word that is not reserved. -/
structure FieldName where
  text : String
  isWord : IsWord text
  notReserved : Keyword.lookup text = none

/-- An index into an array: decimal digits. -/
structure ArrayIndex where
  digits : String
  digits_ne_empty : digits ≠ ""
  isDigit : ∀ c ∈ digits.toList, c.isDigit

/-- A segment behind a point. -/
inductive FieldSegment where
  | name (n : FieldName)
  | index (i : ArrayIndex)

/-- A path: a name and further segments. -/
structure FieldPath where
  first : FieldName
  further : List FieldSegment

namespace FieldSegment

/-- The text of a segment, with which a part of a value is looked up. -/
def text : FieldSegment → String
  | .name n => n.text
  | .index i => i.digits

/-- A segment as it is written: an index with quotes around it, or without. -/
def written (quoted : Bool) : FieldSegment → String
  | .name n => n.text
  | .index i => if quoted then "\"" ++ i.digits ++ "\"" else i.digits

/-- A segment as a name. -/
def asName : FieldSegment → Token.Content
  | .name n => (.word, n.text)
  | .index i => (.quotedIdentifier, i.digits)

/-- The tokens of a segment and of the point in front of it, which stands at an offset. -/
def tokens (quoted : Bool) (offset : Nat) : FieldSegment → List Token
  | .name n => [{ kind := .symbol, text := ".", offset }, { kind := .word, text := n.text, offset := offset + 1 }]
  | .index i =>
    if quoted then
      [{ kind := .symbol, text := ".", offset }, { kind := .quotedIdentifier, text := i.digits, offset := offset + 1 }]
    else [{ kind := .number, text := "." ++ i.digits, offset }]

/-- A segment that is read as a name. -/
def IsReadable (quoted : Bool) : FieldSegment → Prop
  | .name _ => True
  | .index _ => quoted = true

end FieldSegment

/-- Segments as they are written, each behind a point. -/
def writtenSegments (quoted : Bool) (segments : List FieldSegment) : List Char :=
  segments.flatMap fun s => '.' :: (s.written quoted).toList

theorem writtenSegments_cons (quoted : Bool) (s : FieldSegment) (segments : List FieldSegment) :
    writtenSegments quoted (s :: segments) =
      '.' :: ((s.written quoted).toList ++ writtenSegments quoted segments) := by
  rw [writtenSegments, List.flatMap_cons, List.cons_append, ← writtenSegments]

/-- The tokens of segments that are written from an offset on. -/
def segmentTokens (quoted : Bool) (offset : Nat) : List FieldSegment → List Token
  | [] => []
  | s :: segments => s.tokens quoted offset ++ segmentTokens quoted (offset + 1 + (s.written quoted).utf8ByteSize) segments

namespace FieldPath

/-- A path as text, with quotes around indices or without. -/
def written (quoted : Bool) (p : FieldPath) : String :=
  ".".intercalate (p.first.text :: p.further.map (FieldSegment.written quoted))

/-- The text of a path. -/
def text (p : FieldPath) : String :=
  ".".intercalate (p.first.text :: p.further.map FieldSegment.text)

theorem written_false (p : FieldPath) : p.written false = p.text := by
  have hsegment : FieldSegment.written false = FieldSegment.text := by
    funext s
    cases s <;> rfl
  rw [written, text, hsegment]

theorem toList_written (quoted : Bool) (p : FieldPath) :
    (p.written quoted).toList = p.first.text.toList ++ writtenSegments quoted p.further := by
  have hlist (first : List Char) (segments : List FieldSegment) :
      ['.'].intercalate (first :: segments.map fun s => (s.written quoted).toList) =
        first ++ writtenSegments quoted segments := by
    induction segments generalizing first with
    | nil => exact (List.intercalate_singleton).trans (List.append_nil first).symm
    | cons s segments ih =>
      rw [List.map_cons, List.intercalate_cons_cons, ih, writtenSegments_cons]
      simp only [List.append_assoc, List.singleton_append]
  rw [written, String.toList_intercalate, List.map_cons, List.map_map]
  exact hlist p.first.text.toList p.further

end FieldPath

/-! ### Where paths lead -/

theorem FieldName.not_mem_text (n : FieldName) : '.' ∉ n.text.toList := by
  intro hmem
  obtain ⟨c, cs, heq, hc, hcs⟩ := n.isWord
  have hparts : ∀ d ∈ c :: cs, isWordPart d = true := List.forall_mem_cons.2 ⟨(startsWord hc).isWordPart, hcs⟩
  have hpoint : isWordPart '.' = false := isWordPart_of_ascii (by decide)
  rw [hparts '.' (heq ▸ hmem)] at hpoint
  cases hpoint

theorem FieldSegment.not_mem_text (s : FieldSegment) : '.' ∉ s.text.toList := by
  cases s with
  | name n => exact n.not_mem_text
  | index i =>
    intro hmem
    exact absurd (i.isDigit '.' hmem) (by decide)

/-- A path is taken apart into its segments. -/
theorem FieldPath.pathSegments_text (p : FieldPath) :
    pathSegments p.text = p.first.text :: p.further.map FieldSegment.text := by
  have hparts : ∀ part ∈ (p.first.text :: p.further.map FieldSegment.text).map String.toList, '.' ∉ part := by
    intro part hpart
    obtain ⟨s, hs, rfl⟩ := List.mem_map.1 hpart
    obtain rfl | hs := List.mem_cons.1 hs
    · exact p.first.not_mem_text
    · obtain ⟨segment, -, rfl⟩ := List.mem_map.1 hs
      exact segment.not_mem_text
  rw [pathSegments, FieldPath.text, String.toList_intercalate, splitAt_eq_splitOn]
  show (List.splitOn '.' (['.'].intercalate _)).map String.ofList = _
  rw [List.splitOn_intercalate '.' hparts (by simp), List.map_map]
  have hofList : String.ofList ∘ String.toList = id := funext fun s => String.ofList_toList
  rw [hofList, List.map_id]

/-- **Where a path leads**: to the value under a key that is the whole path, else from the field under its first name on
to the parts that the further segments name. -/
theorem FieldPath.field?_text (p : FieldPath) (record : Record) :
    record.field? p.text = (Entries.find? p.text record).or
      ((Entries.find? p.first.text record).bind fun v => v.follow? (p.further.map FieldSegment.text)) := by
  rw [Record.field?, Record.walk?, p.pathSegments_text]

/-! ### The tokens of a path -/

/-- A point comes next, or nothing. -/
def AtPoint (rest : List Char) : Prop :=
  rest = [] ∨ ∃ cs, rest = '.' :: cs

section

variable {rest : List Char}

theorem AtPoint.eq_of_head? (h : AtPoint rest) {c : Char} (hc : c ∈ rest.head?) : c = '.' := by
  obtain rfl | ⟨cs, rfl⟩ := h
  · cases hc
  · exact (Option.some.inj hc).symm

theorem AtPoint.endsWord (h : AtPoint rest) : EndsWord rest := by
  intro c hc
  rw [h.eq_of_head? hc]
  exact ⟨isWordPart_of_ascii (by decide), by decide⟩

theorem AtPoint.endsDigits (h : AtPoint rest) : Number.EndsDigits rest := by
  intro c hc
  rw [h.eq_of_head? hc]
  decide

theorem atPoint_writtenSegments (quoted : Bool) (segments : List FieldSegment) :
    AtPoint (writtenSegments quoted segments) := by
  cases segments with
  | nil => exact .inl rfl
  | cons s segments => exact .inr ⟨_, rfl⟩

theorem byteLength_point (cs : List Char) : byteLength ('.' :: cs) = 1 + byteLength cs :=
  byteLength_append ['.'] cs

/-- A point that no digit follows is a mark of its own. -/
theorem readsAs_point (hrest : startsWithDigit rest = false) : ReadsAs ['.'] rest (.symbol, ".") := by
  have hmark : IsMark '.' := ⟨by decide, by decide, by decide, by decide⟩
  refine ⟨'.', rest, rfl, startsToken_of_ne (by decide) (by decide) (by decide), ?_⟩
  rw [read_mark hmark hrest]
  cases rest with
  | nil => rfl
  | cons c rest =>
    have hshort : isLongSymbol '.' c = false := by simp [isLongSymbol]
    rw [symbol, hshort]
    rfl

/-- A point with digits behind it is a number. -/
theorem readsAs_pointDigits (i : ArrayIndex) (hrest : AtPoint rest) :
    ReadsAs ('.' :: i.digits.toList) rest (.number, "." ++ i.digits) := by
  obtain ⟨htake, hdrop⟩ := Number.takeWhile_isDigit i.isDigit hrest.endsDigits
  have hexponent : splitExponent rest = ([], rest) := by
    obtain rfl | ⟨cs, rfl⟩ := hrest
    · rfl
    · rfl
  have hnumber : startsNumber '.' (i.digits.toList ++ rest) = true := by
    obtain ⟨d, ds, hds⟩ := List.exists_cons_of_ne_nil (mt String.toList_eq_nil_iff.1 i.digits_ne_empty)
    rw [hds]
    exact i.isDigit d (hds ▸ List.mem_cons_self)
  -- the point is no digit, so the number has no whole part
  have hpoint : ('.' :: (i.digits.toList ++ rest)).takeWhile Char.isDigit = [] ∧
      ('.' :: (i.digits.toList ++ rest)).dropWhile Char.isDigit = '.' :: (i.digits.toList ++ rest) := ⟨rfl, rfl⟩
  have htext : ("." ++ i.digits).toList = '.' :: i.digits.toList := String.toList_append
  refine ⟨'.', i.digits.toList ++ rest, rfl, startsToken_of_ne (by decide) (by decide) (by decide), ?_⟩
  rw [read_eq, if_pos hnumber, Lexeme.number, htext]
  simp only [hpoint, splitFraction, htake, hdrop, hexponent, List.nil_append, List.append_nil]

theorem FieldName.startsWithDigit_text (n : FieldName) : startsWithDigit (n.text.toList ++ rest) = false := by
  obtain ⟨c, cs, heq, hc, -⟩ := n.isWord
  rw [heq]
  exact (startsWord hc).notDigit

/-- An index between quotes is a quoted name. -/
theorem readsAs_quotedDigits (i : ArrayIndex) (hrest : AtPoint rest) :
    ReadsAs ("\"" ++ i.digits ++ "\"").toList rest (.quotedIdentifier, i.digits) := by
  have hquote : '"' ∉ i.digits.toList := fun hmem => absurd (i.isDigit '"' hmem) (by decide)
  have hend : rest.head? ≠ some '"' := fun heq => absurd (hrest.eq_of_head? heq) (by decide)
  have hbracket : '"' = ']' → ']' ∉ i.digits.toList := fun heq => absurd heq (by decide)
  have hliteral : ReadsAs (chars (.literal .quotedIdentifier ['"'] '"' i.digits (by decide) hbracket)) rest
      (.quotedIdentifier, i.digits) := readsAs_literal _ hbracket hend
  have hchars : ("\"" ++ i.digits ++ "\"").toList = '"' :: (i.digits.toList ++ ['"']) := by
    simp [String.toList_append]
  rw [chars, if_neg (by decide), doubled_of_not_mem hquote] at hliteral
  rw [hchars]
  exact hliteral

/-- A point and the token behind it that is no number. -/
theorem tokensFrom_point {cs : List Char} {content : Token.Content} (hdigit : startsWithDigit (cs ++ rest) = false)
    (h : ReadsAs cs rest content) {stop offset : Nat} (hstop : stop = offset + byteLength ('.' :: (cs ++ rest))) :
    tokensFrom stop ('.' :: (cs ++ rest)) =
      ([{ kind := .symbol, text := ".", offset }, { kind := content.1, text := content.2, offset := offset + 1 }] ++ ·) <$>
        tokensFrom stop rest := by
  have hbehind : stop = offset + 1 + byteLength (cs ++ rest) := by
    rw [hstop, byteLength_point, Nat.add_assoc]
  have hpoint := (readsAs_point hdigit).tokensFrom_eq offset hstop
  rw [h.tokensFrom_eq (offset + 1) hbehind, List.singleton_append] at hpoint
  rw [hpoint]
  cases tokensFrom stop rest <;> rfl

/-- A segment and the point in front of it are read as their tokens. -/
theorem tokensFrom_segment (quoted : Bool) (s : FieldSegment) (hrest : AtPoint rest) {stop offset : Nat}
    (hstop : stop = offset + byteLength ('.' :: ((s.written quoted).toList ++ rest))) :
    tokensFrom stop ('.' :: ((s.written quoted).toList ++ rest)) =
      (s.tokens quoted offset ++ ·) <$> tokensFrom stop rest := by
  cases s with
  | name n => exact tokensFrom_point n.startsWithDigit_text (readsAs_word n.isWord hrest.endsWord) hstop
  | index i =>
    cases quoted with
    | false => exact (readsAs_pointDigits i hrest).tokensFrom_eq offset hstop
    | true =>
      have hdigit : startsWithDigit (("\"" ++ i.digits ++ "\"").toList ++ rest) = false := by
        rw [String.toList_append, String.toList_append]
        rfl
      exact tokensFrom_point hdigit (readsAs_quotedDigits i hrest) hstop

theorem tokensFrom_writtenSegments (quoted : Bool) (segments : List FieldSegment) {stop offset : Nat}
    (hstop : stop = offset + byteLength (writtenSegments quoted segments)) :
    tokensFrom stop (writtenSegments quoted segments) = .ok (segmentTokens quoted offset segments) := by
  induction segments generalizing offset with
  | nil => exact tokensFrom_nil dropFiller_nil stop
  | cons s segments ih =>
    rw [writtenSegments_cons] at hstop ⊢
    have hbehind : stop = offset + 1 + (s.written quoted).utf8ByteSize + byteLength (writtenSegments quoted segments) := by
      rw [hstop, byteLength_point, byteLength_append, byteLength_toList, ← Nat.add_assoc, ← Nat.add_assoc]
    rw [tokensFrom_segment quoted s (atPoint_writtenSegments quoted segments) hstop, ih hbehind]
    rfl

end

namespace FieldPath

/-- The tokens of a path, each at its place. -/
theorem tokenize_written (quoted : Bool) (p : FieldPath) :
    tokenize (p.written quoted) =
      .ok ({ kind := .word, text := p.first.text, offset := 0 } ::
        segmentTokens quoted p.first.text.utf8ByteSize p.further) := by
  have hsegments := atPoint_writtenSegments quoted p.further
  have hstop : (p.written quoted).utf8ByteSize =
      0 + byteLength (p.first.text.toList ++ writtenSegments quoted p.further) := by
    rw [← byteLength_toList, toList_written, Nat.zero_add]
  have hfurther : (p.written quoted).utf8ByteSize =
      p.first.text.utf8ByteSize + byteLength (writtenSegments quoted p.further) := by
    rw [hstop, Nat.zero_add, byteLength_append, byteLength_toList]
  rw [tokenize, toList_written, (readsAs_word p.first.isWord hsegments.endsWord).tokensFrom_eq 0 hstop,
    tokensFrom_writtenSegments quoted p.further hfurther]
  rfl

end FieldPath

/-! ### The names of a path -/

section

variable {quoted : Bool} {segments : List FieldSegment}

theorem isIdentifierContent_asName (s : FieldSegment) : Parser.isIdentifierContent s.asName = true := by
  cases s with
  | name n =>
    show (Keyword.lookup n.text).isNone = true
    rw [n.notReserved]
    rfl
  | index i => rfl

theorem snd_asName (s : FieldSegment) : s.asName.2 = s.text := by
  cases s <;> rfl

theorem content_tokens {s : FieldSegment} (h : s.IsReadable quoted) (offset : Nat) :
    (s.tokens quoted offset).map Token.content = [(.symbol, "."), s.asName] := by
  cases s with
  | name n => rfl
  | index i =>
    rw [show quoted = true from h]
    rfl

/-- Segments that are read as names are the further parts of a name. -/
theorem content_segmentTokens (h : ∀ s ∈ segments, s.IsReadable quoted) (offset : Nat) :
    (segmentTokens quoted offset segments).map Token.content = Parser.afterPoints (segments.map FieldSegment.asName) := by
  induction segments generalizing offset with
  | nil => rfl
  | cons s segments ih =>
    obtain ⟨hs, hsegments⟩ := List.forall_mem_cons.1 h
    rw [segmentTokens, List.map_append, content_tokens hs, ih hsegments]
    rfl

theorem segmentTokens_append (front back : List FieldSegment) (offset : Nat) :
    segmentTokens quoted offset (front ++ back) =
      segmentTokens quoted offset front ++
        segmentTokens quoted (offset + byteLength (writtenSegments quoted front)) back := by
  induction front generalizing offset with
  | nil => rfl
  | cons s front ih =>
    have hbytes : offset + byteLength (writtenSegments quoted (s :: front)) =
        offset + 1 + (s.written quoted).utf8ByteSize + byteLength (writtenSegments quoted front) := by
      rw [writtenSegments_cons, byteLength_point, byteLength_append, byteLength_toList, ← Nat.add_assoc,
        ← Nat.add_assoc]
    rw [List.cons_append, segmentTokens, segmentTokens, ih, hbytes, List.append_assoc]

end

namespace Parser

open Reader Levels

/-- A number comes next, or nothing. -/
def AtNumber (r : List Token.Content) : Prop :=
  ∀ c ∈ r.head?, c.1 = .number

theorem AtNumber.head?_ne {r : List Token.Content} (h : AtNumber r) (s : String) : r.head? ≠ some (.symbol, s) := by
  intro heq
  exact absurd (h _ heq) (by simp)

/-- A number does not continue an operand. -/
theorem AtNumber.ends {r : List Token.Content} (h : AtNumber r) (least : Nat) : Ends least r := by
  cases r with
  | nil => rfl
  | cons c r =>
    obtain ⟨kind, s⟩ := c
    obtain rfl : kind = .number := h _ rfl
    have hnone : continuation? (((.number, s) :: r).map tokenOf) = none := rfl
    rw [Ends, tightContinuation?, hnone]
    rfl

/-- A path whose segments are read as names is an expression, in front of a number or at the end. -/
theorem takes_fieldPath_expression (p : FieldPath) :
    expression.Takes ((.word, p.first.text) :: afterPoints (p.further.map FieldSegment.asName)) AtNumber
      (· = .field p.text) := by
  have hnames : ∀ c ∈ p.further.map FieldSegment.asName, isIdentifierContent c = true := by
    intro c hc
    obtain ⟨s, -, rfl⟩ := List.mem_map.1 hc
    exact isIdentifierContent_asName s
  have htext : ".".intercalate (p.first.text :: (p.further.map FieldSegment.asName).map Prod.snd) = p.text := by
    rw [List.map_map, FieldPath.text]
    exact congrArg (fun segments => ".".intercalate (p.first.text :: segments))
      (List.map_congr_left fun s _ => snd_asName s)
  have hfield := takes_fieldPath (levels 255) p.first.notReserved hnames (E := AtNumber)
    fun r hr => ⟨hr.head?_ne ".", hr.head?_ne "("⟩
  rw [htext] at hfield
  exact takes_expression_of_unary hfield fun r hr => hr.ends _

end Parser

namespace FieldPath

open SqlFormula.Parser Reader

/-- A path without indices is a formula, and so is every path with quotes around its indices. -/
theorem parseFormula_written {quoted : Bool} {p : FieldPath} (h : ∀ s ∈ p.further, s.IsReadable quoted) :
    parseFormula (p.written quoted) = .ok (.field p.text) := by
  have hcontents : (({ kind := .word, text := p.first.text, offset := 0 } : Token) ::
      segmentTokens quoted p.first.text.utf8ByteSize p.further).map Token.content =
        (.word, p.first.text) :: afterPoints (p.further.map FieldSegment.asName) :=
    congrArg (List.cons _) (content_segmentTokens h _)
  have hexpression := (takes_fieldPath_expression p).follow (F := (· = [])) fun r hr => by
    rw [hr]
    exact nofun
  obtain ⟨e, hrun, rfl⟩ := takes_formula hexpression (p.written quoted).utf8ByteSize _ [] hcontents rfl
  rw [List.append_nil] at hrun
  rw [parseFormula, runOn, tokenize_written]
  exact congrArg Prod.fst hrun

/-- In front of the first index of a path the formula ends, and the point with the index behind it is one token too
many. -/
theorem parseFormula_index {p : FieldPath} {front back : List FieldSegment} {i : ArrayIndex}
    (hfurther : p.further = front ++ .index i :: back) (hfront : ∀ s ∈ front, s.IsReadable false) :
    parseFormula p.text = .error (.unexpectedToken "end of expression" ("." ++ i.digits)
      { p with further := front }.text.utf8ByteSize) := by
  have hoffset : p.first.text.utf8ByteSize + byteLength (writtenSegments false front) =
      { p with further := front }.text.utf8ByteSize := by
    rw [← written_false, ← byteLength_toList, ← byteLength_toList, toList_written, byteLength_append]
  have hcontents : (({ kind := .word, text := p.first.text, offset := 0 } : Token) ::
      segmentTokens false p.first.text.utf8ByteSize front).map Token.content =
        (.word, p.first.text) :: afterPoints (front.map FieldSegment.asName) :=
    congrArg (List.cons _) (content_segmentTokens hfront _)
  rw [parseFormula, runOn, ← written_false p, tokenize_written, hfurther, segmentTokens_append, hoffset]
  -- the names in front of the index are read, and the number is left
  obtain ⟨e, hrun, -⟩ := takes_fieldPath_expression { p with further := front } (p.written false).utf8ByteSize _
    (segmentTokens false { p with further := front }.text.utf8ByteSize (.index i :: back)) hcontents
    fun c hc => by
      obtain rfl := Option.some.inj hc
      rfl
  exact congrArg Prod.fst (run_formula_error hrun rfl)

/-- **Paths as formulas.** A path that leads to a value is a formula with this value if all its segments are names. With
an index among them it is none, and the first index is what the error shows, with the point in front of it. With quotes
around the indices every path is a formula with the value to which the path leads. -/
theorem eval_of_field (p : FieldPath) (ctx : Context) {record : Record} {v : Value}
    (hv : record.field p.text = .ok v) :
    ((∀ s ∈ p.further, ∃ n, s = .name n) → ∃ e, parseFormula p.text = .ok e ∧ e.eval ctx record = .ok v) ∧
      (∀ front i back, p.further = front ++ .index i :: back → (∀ s ∈ front, ∃ n, s = .name n) →
        parseFormula p.text = .error (.unexpectedToken "end of expression" ("." ++ i.digits)
          { p with further := front }.text.utf8ByteSize)) ∧
      ∃ e, parseFormula (p.written true) = .ok e ∧ e.eval ctx record = .ok v := by
  refine ⟨?_, ?_, ?_⟩
  · intro hnames
    have hparse : parseFormula (p.written false) = .ok (.field p.text) := by
      refine parseFormula_written fun s hs => ?_
      obtain ⟨n, rfl⟩ := hnames s hs
      trivial
    rw [written_false] at hparse
    exact ⟨.field p.text, hparse, hv⟩
  · intro front i back hfurther hfront
    refine parseFormula_index hfurther fun s hs => ?_
    obtain ⟨n, rfl⟩ := hfront s hs
    trivial
  · refine ⟨.field p.text, parseFormula_written fun s _ => ?_, hv⟩
    cases s with
    | name n => trivial
    | index i => rfl

/-- The path `tags.1`. -/
def secondTag : FieldPath where
  first := ⟨"tags", isWord_of_ascii (by decide), by decide⟩
  further := [.index ⟨"1", by decide, by simp⟩]

/-- The path `address.city`. -/
def city : FieldPath where
  first := ⟨"address", isWord_of_ascii (by decide), by decide⟩
  further := [.name ⟨"city", isWord_of_ascii (by decide), by decide⟩]

/-- A record with two tags and an address. -/
def tagged : Record :=
  [("tags", .array [.text "a", .text "b"]), ("address", .object [("city", .text "Lyon")])]

theorem eval_of_field_tagged :
    (tagged.field "tags.1" = .ok (.text "b") ∧
      parseFormula "tags.1" = .error (.unexpectedToken "end of expression" ".1" 4) ∧
      ∃ e, parseFormula "tags.\"1\"" = .ok e ∧ e.eval default tagged = .ok (.text "b")) ∧
    tagged.field "address.city" = .ok (.text "Lyon") ∧
      ∃ e, parseFormula "address.city" = .ok e ∧ e.eval default tagged = .ok (.text "Lyon") := by
  have htag : tagged.field "tags.1" = .ok (.text "b") := by cbv
  have hcity : tagged.field "address.city" = .ok (.text "Lyon") := by cbv
  obtain ⟨-, hindex, hquoted⟩ := secondTag.eval_of_field default htag
  have hnames : ∀ s ∈ city.further, ∃ n, s = .name n := List.forall_mem_singleton.2 ⟨_, rfl⟩
  exact ⟨⟨htag, hindex [] _ [] rfl (List.forall_mem_nil _), hquoted⟩, hcity, (city.eval_of_field default hcity).1 hnames⟩

/-- An element of an array is no formula by its path alone. -/
theorem not_eval_of_field :
    ¬∀ (p : FieldPath) (ctx : Context) (record : Record) (v : Value), record.field p.text = .ok v →
      ∃ e, parseFormula p.text = .ok e ∧ e.eval ctx record = .ok v := by
  intro h
  have htag : tagged.field secondTag.text = .ok (.text "b") := by cbv
  obtain ⟨e, hparse, -⟩ := h secondTag default tagged (.text "b") htag
  have hfurther : secondTag.further = [] ++ .index ⟨"1", by decide, by simp⟩ :: [] := rfl
  rw [parseFormula_index hfurther (List.forall_mem_nil _)] at hparse
  cases hparse

end FieldPath

end SqlFormula

import SqlFormula.CommandLine
import SqlFormula.Proofs.Json
import SqlFormula.Proofs.PortableText.RoundTrip

/-!
# Documents are kept in portable text

A document in JSON becomes a value, the value is written as portable text, and the other way round. Nothing is lost if
the integers of the document fit into 64 bits with a sign and it nests no deeper than portable text may.

## Main statements

- `Json.toJson_ofJson` — the value of a document stands for that document
- `CommandLine.decode_encode_document` — a document is read back from the portable text of its value
-/

namespace SqlFormula

open Json (IsPart)

/-! ### Lists of parts -/

namespace Value

theorem ofJsonItems_eq_map (items : List Json) : ofJsonItems items = items.map ofJson := by
  induction items with
  | nil => rfl
  | cons j js ih => rw [ofJsonItems, ih, List.map_cons]

theorem ofJsonMembers_eq_map (members : List (String × Json)) :
    ofJsonMembers members = members.map fun m => (m.1, ofJson m.2) := by
  induction members with
  | nil => rfl
  | cons m rest ih => rw [ofJsonMembers, ih, List.map_cons]

theorem toJsonItems_eq_map (items : List Value) : toJsonItems items = items.map toJson := by
  induction items with
  | nil => rfl
  | cons v vs ih => rw [toJsonItems, ih, List.map_cons]

theorem toJsonMembers_eq_map (entries : List (String × Value)) :
    toJsonMembers entries = entries.map fun e => (e.1, e.2.toJson) := by
  induction entries with
  | nil => rfl
  | cons e rest ih => rw [toJsonMembers, ih, List.map_cons]

theorem ofJson_array (items : List Json) : ofJson (.array items) = .array (items.map ofJson) := by
  rw [ofJson, ofJsonItems_eq_map]

theorem ofJson_object (members : List (String × Json)) :
    ofJson (.object members) = .object (members.map fun m => (m.1, ofJson m.2)) := by
  rw [ofJson, ofJsonMembers_eq_map]

end Value

namespace Json

open Value (ofJson ofJson_array ofJson_object)

/-! ### The value of a document -/

/-- An integer that fits stays one. -/
theorem ofJson_integer {i : Int} (h : Number.Fits i) :
    ofJson (.integer i) = .integer (Int64.ofInt i) ∧ (Int64.ofInt i).toInt = i := by
  refine ⟨by rw [ofJson, Number.int64?_eq_some h], ?_⟩
  rw [Int64.toInt_ofInt]
  exact Int.bmod_eq_of_le h.1 (Int.lt_of_le_sub_one h.2)

/-- **The value of a document stands for that document,** with its integers and floats told apart. -/
theorem toJson_ofJson {j : Json} (hj : j.WellFormed) (hfits : j.IntegersFit) : (ofJson j).toJson = j := by
  induction j using Json.induction with
  | scalar j hscalar =>
    cases j with
    | integer i =>
      obtain ⟨hinteger, hsame⟩ := ofJson_integer (hfits i .self)
      rw [hinteger, Value.toJson, hsame]
    | float x => rw [ofJson, Value.toJson, if_pos (hj.finite x .self)]
    | null | boolean | text => rfl
    | array | object => exact hscalar.elim
  | array items ih =>
    have hitems : items.map (Value.toJson ∘ ofJson) = items := by
      refine (List.map_congr_left fun j hmem => ?_).trans (List.map_id items)
      exact ih j hmem (hj.of_item hmem) (hfits.of_item hmem)
    rw [ofJson_array, Value.toJson, Value.toJsonItems_eq_map, List.map_map, hitems]
  | object members ih =>
    have hmembers : members.map (fun m => (m.1, (ofJson m.2).toJson)) = members := by
      refine (List.map_congr_left fun m hmem => ?_).trans (List.map_id members)
      exact Prod.ext rfl (ih m hmem (hj.of_member hmem) (hfits.of_member hmem))
    rw [ofJson_object, Value.toJson, Value.toJsonMembers_eq_map, List.map_map]
    exact congrArg Json.object hmembers

/-- Objects keep the order of their names. -/
theorem wellFormed_ofJson {j : Json} (hj : j.WellFormed) : (ofJson j).WellFormed := by
  induction j using Json.induction with
  | scalar j hscalar =>
    cases j with
    | integer i =>
      rw [ofJson]
      cases Number.int64? i <;> trivial
    | null | boolean | float | text => trivial
    | array | object => exact hscalar.elim
  | array items ih =>
    rw [ofJson_array, Value.wellFormed_array]
    exact List.forall_mem_map.2 fun j hmem => ih j hmem (hj.of_item hmem)
  | object members ih =>
    rw [ofJson_object, Value.wellFormed_object]
    refine ⟨?_, List.forall_mem_map.2 fun m hmem => ih m hmem (hj.of_member hmem)⟩
    have hkeys : (members.map fun m => (m.1, ofJson m.2)).map Prod.fst = members.map Prod.fst := by
      rw [List.map_map]
      rfl
    rw [Entries.Sorted, hkeys]
    exact hj.sorted members .self

/-- Documents have no dates and times. -/
theorem not_hasInstant_ofJson (t : Instant) (j : Json) : ¬(ofJson j).HasInstant t := by
  induction j using Json.induction with
  | scalar j hscalar =>
    cases j with
    | integer i =>
      rw [ofJson]
      cases Number.int64? i <;> exact nofun
    | null | boolean | float | text => exact nofun
    | array | object => exact hscalar.elim
  | array items ih =>
    rw [ofJson_array, Value.hasInstant_array]
    rintro ⟨v, hv, ht⟩
    obtain ⟨j, hmem, rfl⟩ := List.mem_map.1 hv
    exact ih j hmem ht
  | object members ih =>
    rw [ofJson_object, Value.hasInstant_object]
    rintro ⟨e, he, ht⟩
    obtain ⟨m, hmem, rfl⟩ := List.mem_map.1 he
    exact ih m hmem ht

theorem depthItems_eq (items : List Json) (h : ∀ j ∈ items, (ofJson j).depth = j.depth) :
    Value.depthItems (items.map ofJson) = depthItems items := by
  induction items with
  | nil => rfl
  | cons j js ih =>
    obtain ⟨hj, hjs⟩ := List.forall_mem_cons.1 h
    rw [List.map_cons, Value.depthItems, depthItems, hj, ih hjs]

theorem depthMembers_eq (members : List (String × Json)) (h : ∀ m ∈ members, (ofJson m.2).depth = m.2.depth) :
    Value.depthEntries (members.map fun m => (m.1, ofJson m.2)) = depthMembers members := by
  induction members with
  | nil => rfl
  | cons m rest ih =>
    obtain ⟨hm, hrest⟩ := List.forall_mem_cons.1 h
    rw [List.map_cons, Value.depthEntries, depthMembers, hm, ih hrest]

/-- The value nests as deep as the document. -/
theorem depth_ofJson (j : Json) : (ofJson j).depth = j.depth := by
  induction j using Json.induction with
  | scalar j hscalar =>
    cases j with
    | integer i =>
      rw [ofJson]
      cases Number.int64? i <;> rfl
    | null | boolean | float | text => rfl
    | array | object => exact hscalar.elim
  | array items ih => rw [ofJson_array, Value.depth, depth, depthItems_eq items ih]
  | object members ih => rw [ofJson_object, Value.depth, depth, depthMembers_eq members ih]

end Json

namespace CommandLine

open PortableText (heldName)

variable {j : Json}

/-- **A document is read back from the portable text of its value,** whatever the root is called. So the command that
reads portable text shows the document again that another command has been given. -/
theorem decode_encode_document (rootName : String) (hj : j.WellFormed) (hfits : j.IntegersFit)
    (hdepth : j.depth ≤ PortableText.nestingLimit) :
    (∃ v, Value.ofPortableText ((Value.ofJson j).portableText rootName) = .ok (heldName rootName v, v) ∧
        v.toJson = j) ∧
      ∀ text, Json.read? text = some j → ∃ t, encode rootName text = .ok (.shown t) ∧
        decode t = .ok (.shown j.pretty) := by
  have hread : Value.ofPortableText ((Value.ofJson j).portableText rootName) =
      .ok (heldName rootName (Value.ofJson j), Value.ofJson j) :=
    (Value.ofPortableText_portableText _ rootName (Json.wellFormed_ofJson hj)
      fun t ht => absurd ht (Json.not_hasInstant_ofJson t j)).1 (by rwa [Json.depth_ofJson])
  have hsame := Json.toJson_ofJson hj hfits
  refine ⟨⟨_, hread, hsame⟩, fun text htext => ⟨_, by rw [encode, htext], ?_⟩⟩
  rw [decode, hread]
  exact congrArg (fun shown => Except.ok (Answer.shown shown.pretty)) hsame

/-- A document with an integer and a float of the same value, with empty containers and odd names. -/
def mixedDocument : Json :=
  .object [("", .array [.integer 1, .float 1.0, .array [], .object [], .null]), ("a `\\b", .text "\\`")]

theorem decode_encode_mixedDocument :
    mixedDocument.WellFormed ∧ mixedDocument.IntegersFit ∧ mixedDocument.depth ≤ PortableText.nestingLimit ∧
      ∃ v, Value.ofPortableText ((Value.ofJson mixedDocument).portableText "") = .ok (heldName "" v, v) ∧
        v.toJson = mixedDocument := by
  have hwellFormed : mixedDocument.WellFormed := by
    refine ⟨fun x hx => ?_, fun members hmembers => ?_⟩
    · have : x = 1.0 := by simpa [mixedDocument] using hx
      rw [this]
      decide +kernel
    · have hmem : Json.object members = mixedDocument ∨ members = [] := by
        simpa [mixedDocument] using hmembers
      rcases hmem with hwhole | rfl
      · cases hwhole
        decide
      · decide
  have hfits : mixedDocument.IntegersFit := by
    intro i hi
    have : i = 1 := by simpa [mixedDocument] using hi
    rw [this]
    decide
  have hdepth : mixedDocument.depth ≤ PortableText.nestingLimit := by decide
  exact ⟨hwellFormed, hfits, hdepth, (decode_encode_document "" hwellFormed hfits hdepth).1⟩

end CommandLine

end SqlFormula

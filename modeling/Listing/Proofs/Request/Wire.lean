import Listing.Proofs.Json.Document
import Listing.Request.Printer
import Listing.Request.Reader

/-!
# Requests survive the wire

What a reader takes from a document, however it is spelled there, it takes again from the document that the
value is written as (`readOperand_toJson`, `readFilter_toJson`, `readSort_toJson`, `readRequest_toJson`).
The literals of such a document are sound, so a request is read back from its text (`ofText?_print`).
-/

namespace Listing

open Json

/-! ## Written documents are sound -/

namespace Json

theorem sound_ofString (s : String) : (ofString s).Sound := .text (isText_escape s)

theorem sound_ofInt (n : Int) : (ofInt n).Sound := .number (isNumber_decimal n)

theorem sound_ofFloat {format : NumberFormat} {x : Binary64}
    (keeps : x.isFinite = true → format.Keeps x) : (ofFloat format x).Sound := by
  unfold ofFloat
  split
  case isTrue finite => exact .number (keeps finite).isNumber
  case isFalse => exact .null

theorem sound_map {α : Type} {print : α → Json} {items : List α}
    (sound : ∀ a ∈ items, (print a).Sound) : (Json.array (items.map print)).Sound := by
  apply Sound.array
  intro j member
  obtain ⟨a, listed, rfl⟩ := List.mem_map.1 member
  exact sound a listed

def Printed (members : List (List Char × Json)) : Prop := ∀ m ∈ members, IsText m.1 ∧ m.2.Sound

namespace Printed

variable {members others : List (List Char × Json)}

theorem nil : Printed [] := fun _ member => nomatch member

theorem cons (name : String) {value : Json} (sound : value.Sound) (rest : Printed members) :
    Printed (field name value :: members) := by
  intro m member
  obtain _ | ⟨_, member⟩ := member
  · exact ⟨isText_escape name, sound⟩
  · exact rest m member

theorem append (h : Printed members) (h' : Printed others) : Printed (members ++ others) := by
  intro m member
  obtain member | member := List.mem_append.1 member
  · exact h m member
  · exact h' m member

theorem sound (h : Printed members) : (Json.object members).Sound :=
  .object (fun m member => (h m member).1) fun m member => (h m member).2

end Printed

end Json

mutual

def Operand.floats : Operand → List Binary64
  | .float x => [x]
  | .array items => Operand.floatsItems items
  | _ => []

def Operand.floatsItems : List Operand → List Binary64
  | [] => []
  | item :: items => item.floats ++ Operand.floatsItems items

end

def Request.floats (r : Request) : List Binary64 := r.filters.flatMap (·.operand.floats)

section

variable {format : NumberFormat}

mutual

theorem Operand.sound_toJson : ∀ o : Operand, format.KeepsAll o.floats → (o.toJson format).Sound
  | .null, _ => .null
  | .bool b, _ => .bool b
  | .int n, _ => sound_ofInt n.toInt
  | .float x, keeps => sound_ofFloat (keeps x (.head _))
  | .string s, _ => sound_ofString s
  | .array items, keeps => .array (Operand.sound_toJsonItems items keeps)

theorem Operand.sound_toJsonItems : ∀ items : List Operand, format.KeepsAll (Operand.floatsItems items) →
    ∀ j ∈ Operand.toJsonItems format items, j.Sound
  | [], _, _, member => nomatch member
  | item :: items, keeps, j, member => by
    obtain ⟨first, others⟩ := List.forall_mem_append.1 keeps
    obtain _ | ⟨_, member⟩ := member
    · exact Operand.sound_toJson item first
    · exact Operand.sound_toJsonItems items others j member

end

end

theorem Direction.sound_toJson (d : Direction) : d.toJson.Sound := by
  cases d <;> exact sound_ofString _

namespace Request

theorem fields_nested (nested : List String) : Printed (nestedToJson nested) := by
  unfold nestedToJson
  split
  · exact .nil
  · exact .cons _ (sound_map fun s _ => sound_ofString s) .nil

theorem fields_integer (name : String) (n : Option Int64) : Printed (integerToJson name n) := by
  cases n with
  | none => exact .nil
  | some n => exact .cons _ (sound_ofInt n.toInt) .nil

end Request

theorem FilterTerm.sound_toJson {format : NumberFormat} (t : FilterTerm)
    (keeps : format.KeepsAll t.operand.floats) : (t.toJson format).Sound := by
  have operator : t.operator.toJson.Sound := sound_ofString _
  have behind : Printed [field "operation" t.operator.toJson, field "value" (t.operand.toJson format)] :=
    .cons _ operator (.cons _ (t.operand.sound_toJson keeps) .nil)
  exact (Printed.cons _ (sound_ofString _) ((Request.fields_nested t.nested).append behind)).sound

theorem SortTerm.sound_toJson (t : SortTerm) : t.toJson.Sound := by
  have behind : Printed [field "direction" t.direction.toJson] :=
    .cons _ t.direction.sound_toJson .nil
  exact (Printed.cons _ (sound_ofString _) ((Request.fields_nested t.nested).append behind)).sound

theorem Request.keepsAll {format : NumberFormat} {r : Request} {t : FilterTerm}
    (keeps : format.KeepsAll r.floats) (listed : t ∈ r.filters) : format.KeepsAll t.operand.floats :=
  fun x member => keeps x (List.mem_flatMap.2 ⟨t, listed, member⟩)

theorem Request.sound_toJson {format : NumberFormat} (r : Request) (keeps : format.KeepsAll r.floats) :
    (r.toJson format).Sound := by
  have filters : (Json.array (r.filters.map (·.toJson format))).Sound :=
    sound_map fun t listed => t.sound_toJson (keepsAll keeps listed)
  have sorters : (Json.array (r.sorters.map (·.toJson))).Sound := sound_map fun t _ => t.sound_toJson
  have terms : Printed [field "filters" (.array (r.filters.map (·.toJson format))),
      field "sorters" (.array (r.sorters.map (·.toJson)))] :=
    .cons _ filters (.cons _ sorters .nil)
  exact ((terms.append (fields_integer "page" r.page)).append (fields_integer "size" r.size)).sound

/-! ## Parts that are read again -/

theorem Operator.spellings_token : ∀ e ∈ spellings, ofToken e.2.token = e.2 := by decide

theorem Operator.ofToken_token (token : String) : ofToken (ofToken token).token = ofToken token := by
  cases spelled : spellings.lookup (String.ofList (Text.lowerAscii (Text.trim token.toList))) with
  | none =>
    have unknown : ofToken token = .unknown token := by rw [ofToken, spelled, Option.getD_none]
    rw [unknown, Operator.token, unknown]
  | some o =>
    have known : ofToken token = o := by rw [ofToken, spelled, Option.getD_some]
    obtain ⟨before, behind, parts, -⟩ := List.lookup_eq_some_iff.1 spelled
    have listed : (String.ofList (Text.lowerAscii (Text.trim token.toList)), o) ∈ spellings := by
      rw [parts]
      exact List.mem_append_right _ List.mem_cons_self
    rw [known]
    exact spellings_token (_, o) listed

namespace Json

theorem readText_ofString (s : String) : readText (ofString s) = some s := decode?_escape s

theorem readInteger_ofInt (n : Int64) : readInteger (ofInt n.toInt) = some n := by
  rw [ofInt, readInteger, integer?_decimal, Option.bind_some, fit?_toInt]

theorem readOperator_toJson (token : String) :
    readOperator (Operator.ofToken token).toJson = some (.ofToken token) := by
  rw [readOperator, Operator.toJson, readText_ofString, Option.map_some, Operator.ofToken_token]

theorem readDirection_toJson (depth : Nat) (d : Direction) :
    readDirection depth d.toJson = some d := by
  cases d
  all_goals
    rw [Direction.toJson, ofString]
    unfold readDirection
    simp only [decode?_escape, Option.bind_some]
    rfl

section

variable {format : NumberFormat}

mutual

theorem readOperand_toJson (bounded : format.IsBounded) : ∀ {depth : Nat} {j : Json} {o : Operand},
    readOperand format depth j = some o → format.KeepsAll o.floats →
    readOperand format depth (o.toJson format) = some o
  | depth, .null, o, h, _ => by
    rw [readOperand] at h
    cases h
    rw [Operand.toJson, readOperand]
  | depth, .bool b, o, h, _ => by
    rw [readOperand] at h
    cases h
    rw [Operand.toJson, readOperand]
  | depth, .number literal, o, h, keeps => by
    rw [readOperand] at h
    split at h
    · cases h
      simp only [Operand.toJson, ofInt, readOperand, integer?_decimal, Option.bind_some, fit?_toInt]
    · obtain ⟨x, read, rfl⟩ := Option.map_eq_some_iff.1 h
      have finite : x.isFinite = true := bounded literal x read
      have kept : format.Keeps x := keeps x (.head _) finite
      simp only [Operand.toJson, ofFloat, finite, if_true, readOperand,
        integer?_of_isMarked kept.isMarked, Option.bind_none, kept.read?_write, Option.map_some]
  | depth, .text literal, o, h, _ => by
    rw [readOperand] at h
    obtain ⟨s, -, rfl⟩ := Option.map_eq_some_iff.1 h
    rw [Operand.toJson, ofString, readOperand, decode?_escape, Option.map_some]
  | 0, .array items, o, h, _ => by
    rw [readOperand] at h
    cases h
  | depth + 1, .array items, o, h, keeps => by
    rw [readOperand] at h
    obtain ⟨os, read, rfl⟩ := Option.map_eq_some_iff.1 h
    rw [Operand.toJson, readOperand, readOperands_toJson bounded read keeps, Option.map_some]
  | depth, .object _, o, h, _ => by
    rw [readOperand] at h
    cases h

theorem readOperands_toJson (bounded : format.IsBounded) :
    ∀ {depth : Nat} {js : List Json} {os : List Operand}, readOperands format depth js = some os →
    format.KeepsAll (Operand.floatsItems os) →
    readOperands format depth (Operand.toJsonItems format os) = some os
  | depth, [], os, h, _ => by
    rw [readOperands] at h
    cases h
    rw [Operand.toJsonItems, readOperands]
  | depth, j :: js, os, h, keeps => by
    rw [readOperands] at h
    obtain ⟨o, first, h⟩ := Option.bind_eq_some_iff.1 h
    obtain ⟨others, rest, h⟩ := Option.bind_eq_some_iff.1 h
    cases h
    obtain ⟨front, behind⟩ := List.forall_mem_append.1 keeps
    simp only [Operand.toJsonItems, readOperands, readOperand_toJson bounded first front,
      readOperands_toJson bounded rest behind, Option.bind_eq_bind, Option.bind_some]

end

end

/-! ## Structures that are read again -/

section

variable {α : Type} {j : Json} {a : α}

theorem required_some {fields : Fields} {place : Nat} {read : Json → Option α}
    (h : required fields place read j = some a) : ∃ value, read value = some a := by
  obtain ⟨value, -, h⟩ := Option.bind_eq_some_iff.1 h
  obtain ⟨value, -, h⟩ := Option.bind_eq_some_iff.1 h
  exact ⟨value, h⟩

theorem defaulted_some {default : α} {fields : Fields} {place : Nat} {read : Json → Option α}
    (h : defaulted default fields place read j = some a) : a = default ∨ ∃ value, read value = some a := by
  obtain ⟨value, -, h⟩ := Option.bind_eq_some_iff.1 h
  cases value with
  | none => exact .inl (Option.some.inj h).symm
  | some value => exact .inr ⟨value, h⟩

theorem structure?_some {fields : Fields} {depth : Nat} {read : Reader α}
    (h : structure? fields read depth j = some a) : ∃ d, depth = d + 1 ∧ read d j = some a := by
  cases depth with
  | zero => cases h
  | succ depth =>
    rw [structure?] at h
    split at h
    · exact ⟨depth, rfl, h⟩
    · cases h

theorem readArray_some {depth : Nat} {read : Reader α} {items : List α}
    (h : readArray read depth j = some items) :
    ∃ d, depth = d + 1 ∧ ∀ a ∈ items, ∃ j, read d j = some a := by
  unfold readArray at h
  split at h
  case h_2 => cases h
  case h_1 depth documents =>
    refine ⟨depth, rfl, ?_⟩
    induction documents generalizing items with
    | nil =>
      cases h
      rintro _ ⟨⟩
    | cons j documents ih =>
      rw [List.mapM_cons] at h
      obtain ⟨first, read_first, h⟩ := Option.bind_eq_some_iff.1 h
      obtain ⟨others, read_others, h⟩ := Option.bind_eq_some_iff.1 h
      obtain rfl := Option.some.inj h
      rintro a (_ | ⟨_, member⟩)
      · exact ⟨j, read_first⟩
      · exact ih read_others a member

theorem readArray_map {print : α → Json} {read : Reader α} {depth : Nat} {items : List α}
    (back : ∀ a ∈ items, read depth (print a) = some a) :
    readArray read (depth + 1) (.array (items.map print)) = some items := by
  rw [readArray]
  induction items with
  | nil => rfl
  | cons a items ih =>
    rw [List.map_cons, List.mapM_cons, back a (.head _), ih fun a member => back a (.tail _ member)]
    rfl

theorem readArray_again {print : α → Json} {read : Reader α} {depth place : Nat} {fields : Fields}
    {items : List α}
    (back : ∀ a ∈ items, ∀ j, read depth j = some a → read depth (print a) = some a)
    (listed : defaulted [] fields place (readArray read (depth + 1)) j = some items) :
    readArray read (depth + 1) (.array (items.map print)) = some items := by
  obtain rfl | ⟨value, found⟩ := defaulted_some listed
  · rfl
  · obtain ⟨_, ⟨⟩, each⟩ := readArray_some found
    apply readArray_map
    intro a member
    obtain ⟨j, origin⟩ := each a member
    exact back a member j origin

end

theorem isNamed_escape (names : List String) (name : String) :
    isNamed names (escape name) = names.contains name := by
  rw [isNamed, decode?_escape, Option.any_some]

theorem nested_reaches {fields : Fields} {place depth : Nat} {j : Json} {nested : List String}
    (h : defaulted [] fields place (readArray (fun _ => readText) depth) j = some nested) :
    nested = [] ∨ 0 < depth := by
  obtain empty | ⟨value, read⟩ := defaulted_some h
  · exact .inl empty
  · obtain ⟨d, rfl, -⟩ := readArray_some read
    exact .inr (Nat.succ_pos d)

theorem readArray_strings {depth : Nat} (level : 0 < depth) (texts : List String) :
    readArray (fun _ => readText) depth (.array (texts.map .ofString)) = some texts := by
  obtain ⟨depth, rfl⟩ : ∃ d, depth = d + 1 := ⟨depth - 1, by omega⟩
  exact readArray_map fun s _ => readText_ofString s

theorem readFilter_toJson {format : NumberFormat} (bounded : format.IsBounded) {depth : Nat} {j : Json}
    {t : FilterTerm} (h : readFilter format depth j = some t) (keeps : format.KeepsAll t.operand.floats) :
    readFilter format depth (t.toJson format) = some t := by
  obtain ⟨depth, rfl, fields⟩ := structure?_some h
  obtain ⟨property, -, fields⟩ := Option.bind_eq_some_iff.1 fields
  obtain ⟨nested, path, fields⟩ := Option.bind_eq_some_iff.1 fields
  obtain ⟨operator, named, fields⟩ := Option.bind_eq_some_iff.1 fields
  obtain ⟨operand, value, fields⟩ := Option.bind_eq_some_iff.1 fields
  obtain rfl := Option.some.inj fields
  obtain ⟨j', named⟩ := required_some named
  obtain ⟨token, -, rfl⟩ := Option.map_eq_some_iff.1 named
  have again : readOperand format depth (operand.toJson format) = some operand := by
    obtain rfl | ⟨value, read⟩ := defaulted_some value
    · rfl
    · exact readOperand_toJson bounded read keeps
  cases nested with
  | nil =>
    simp [readFilter, structure?, isStructure, FilterTerm.toJson, Request.nestedToJson, field,
      decode?_escape, required, defaulted, field?, filterFields, isNamed_escape, readText_ofString,
      readOperator_toJson, again]
  | cons step steps =>
    have level := (nested_reaches path).resolve_left (List.cons_ne_nil _ _)
    have strings := readArray_strings level (step :: steps)
    rw [List.map_cons] at strings
    simp [readFilter, structure?, isStructure, FilterTerm.toJson, Request.nestedToJson, field,
      decode?_escape, required, defaulted, field?, filterFields, isNamed_escape, readText_ofString,
      readOperator_toJson, again, strings]

theorem readSort_toJson {depth : Nat} {j : Json} {t : SortTerm} (h : readSort depth j = some t) :
    readSort depth t.toJson = some t := by
  obtain ⟨depth, rfl, fields⟩ := structure?_some h
  obtain ⟨property, -, fields⟩ := Option.bind_eq_some_iff.1 fields
  obtain ⟨nested, path, fields⟩ := Option.bind_eq_some_iff.1 fields
  obtain ⟨direction, -, fields⟩ := Option.bind_eq_some_iff.1 fields
  obtain rfl := Option.some.inj fields
  cases nested with
  | nil =>
    simp [readSort, structure?, isStructure, SortTerm.toJson, Request.nestedToJson, field,
      decode?_escape, required, defaulted, field?, sortFields, isNamed_escape, readText_ofString,
      readDirection_toJson]
  | cons step steps =>
    have level := (nested_reaches path).resolve_left (List.cons_ne_nil _ _)
    have strings := readArray_strings level (step :: steps)
    rw [List.map_cons] at strings
    simp [readSort, structure?, isStructure, SortTerm.toJson, Request.nestedToJson, field,
      decode?_escape, required, defaulted, field?, sortFields, isNamed_escape, readText_ofString,
      readDirection_toJson, strings]

theorem readOptional_integer (n : Int64) :
    readOptional readInteger (ofInt n.toInt) = some (some n) :=
  congrArg (Option.map some) (readInteger_ofInt n)

theorem readRequest_toJson {format : NumberFormat} (bounded : format.IsBounded) {depth : Nat} {j : Json}
    {r : Request} (h : readRequest format (depth + 2) j = some r) (keeps : format.KeepsAll r.floats) :
    readRequest format (depth + 2) (r.toJson format) = some r := by
  obtain ⟨_, ⟨⟩, fields⟩ := structure?_some h
  obtain ⟨filters, listed, fields⟩ := Option.bind_eq_some_iff.1 fields
  obtain ⟨sorters, sorted, fields⟩ := Option.bind_eq_some_iff.1 fields
  obtain ⟨page, -, fields⟩ := Option.bind_eq_some_iff.1 fields
  obtain ⟨size, -, fields⟩ := Option.bind_eq_some_iff.1 fields
  obtain rfl := Option.some.inj fields
  have filters_again : readArray (readFilter format) (depth + 1)
      (.array (filters.map (·.toJson format))) = some filters :=
    readArray_again
      (fun t listed _ read => readFilter_toJson bounded read (Request.keepsAll keeps listed)) listed
  have sorters_again := readArray_again (fun _ _ _ read => readSort_toJson read) sorted
  cases page <;> cases size
  all_goals
    simp [readRequest, structure?, isStructure, Request.toJson, Request.integerToJson, field,
      decode?_escape, defaulted, field?, requestFields, isNamed_escape, filters_again, sorters_again,
      readOptional_integer]

end Json

namespace Request

/-- Whatever text a request was read from, it is read again from the text that it is written as, if its
floats are. -/
theorem ofText_print {format : NumberFormat} {text : String} {r : Request} (bounded : format.IsBounded)
    (keeps : ∀ x ∈ r.floats, x.isFinite = true → format.Keeps x)
    (h : Json.ofText? (Json.readRequest format) text = some r) :
    Json.ofText? (Json.readRequest format) (r.toJson format).print = some r := by
  obtain ⟨document, -, read⟩ := Option.bind_eq_some_iff.1 h
  have limit : Json.nestingLimit = 125 + 2 := rfl
  rw [Json.as?, limit] at read
  rw [Json.ofText?, Json.read?_print (r.sound_toJson keeps), Option.bind_some, Json.as?, limit]
  exact Json.readRequest_toJson bounded read keeps

theorem ofText_print_respelled :
    let text := "[[[\"a\", [\"b\"], \" likes\", [1, [2.50], -0, \"\\u0041\"]]], [[\"a\", [], \"Desc\"]]]"
    let printed := "\x7b\"filters\":[\x7b\"property\":\"a\",\"nestedPath\":[\"b\"]," ++
      "\"operation\":\" likes\",\"value\":[1,[2.5],-0.0,\"A\"]\x7d]," ++
      "\"sorters\":[\x7b\"property\":\"a\",\"direction\":\"desc\"\x7d]\x7d"
    ∃ r, Json.ofText? (Json.readRequest .scaled) text = some r ∧ (r.toJson .scaled).print = printed ∧
      Json.ofText? (Json.readRequest .scaled) (r.toJson .scaled).print = some r := by
  intro text printed
  have reads : (Json.ofText? (Json.readRequest .scaled) text).any (fun r =>
      (r.toJson .scaled).print == printed &&
      r.floats.all fun x => NumberFormat.scaled.read? (NumberFormat.scaled.write x) == some x) = true := by
    decide +kernel
  clear_value text printed
  obtain ⟨r, read, good⟩ := (Option.any_eq_true _ _).1 reads
  obtain ⟨prints, back⟩ := Bool.and_eq_true_iff.1 good
  refine ⟨r, read, eq_of_beq prints, ofText_print NumberFormat.scaled_isBounded ?_ read⟩
  intro x member finite
  have literal := NumberFormat.write_json finite
  exact ⟨literal.1, literal.2, eq_of_beq (List.all_eq_true.1 back x member)⟩

end Request

end Listing

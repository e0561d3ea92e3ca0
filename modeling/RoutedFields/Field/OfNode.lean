import RoutedFields.Field.Basic
import RoutedFields.Field.Checked
import RoutedFields.Limits

/-!
# Fields from nodes

Reading a field from a node, with everything that is wrong with it. Unknown entries are ignored. The
entries `displayName`, `typeOptions` and `propertyInDotNotation` may also be spelled with
underscores. An option that is valid as a group of fields is one, and else a labelled value. Fields
may stand one inside another up to a limit.

* `SendRule.check`, `RequestRule.check`, `RoutingRule.check`: reading routing rules.
* `Field.checkWithin`, `Field.check`: reading a field.
-/

namespace RoutedFields

/-! ## Routing rules -/

/-- Reading a send rule. -/
def SendRule.check : Node → Checked SendRule :=
  Check.object fun es =>
    SendRule.mk <$> Check.needed es "type" Check.text <*> Check.needed es "property" Check.text <*>
      Check.needed es "value" Check.text <*>
      Check.optionalAs es "propertyInDotNotation" "property_in_dot_notation" false Check.flag

/-- Reading a request rule. -/
def RequestRule.check : Node → Checked RequestRule :=
  Check.object fun es =>
    RequestRule.mk <$> Check.optional es "body" none (Check.nullable Check.text) <*>
      Check.optional es "headers" none (Check.nullable (Check.textMap Check.text))

/-- Reading a routing rule. -/
def RoutingRule.check : Node → Checked RoutingRule :=
  Check.object fun es =>
    RoutingRule.mk <$> Check.optional es "send" none (Check.nullable SendRule.check) <*>
      Check.optional es "request" none (Check.nullable RequestRule.check)

/-! ## Parts of fields -/

/-- Reading a field type. -/
def FieldType.check : Node → Checked FieldType
  | .str name =>
    match FieldType.ofName? name with
    | some type => .valid type
    | none => .issue .notAChoice
  | _ => .issue .notAChoice

/-- An option read in both ways: as a group if it is one, else as a labelled value. -/
def Choice.prefer (group literal : Checked (Choice Field)) : Checked (Choice Field) :=
  match group.under (.key "CollectionOption"), literal.under (.key "FieldOption") with
  | .valid choice, _ => .valid choice
  | .invalid _, .valid choice => .valid choice
  | .invalid issues, .invalid more => .invalid (issues ++ more)

/-- Reading a labelled value. -/
def Choice.checkLiteral (es : Entries) : Checked (Choice Field) :=
  .literal <$> Check.needed es "name" Check.text <*> Check.optional es "value" .null .valid

/-- Reading a group of fields, given its fields. -/
def Choice.checkGroup (es : Entries) (fields : Checked (List Field)) : Checked (Choice Field) :=
  .group <$> Check.needed es "name" Check.text <*>
    Check.neededAs es "displayName" "display_name" Check.text <*> fields

/-- Reading a field, given its options. -/
def Field.assemble (es : Entries) (options : Checked (Option (List (Choice Field)))) :
    Checked Field :=
  Field.mk <$> Check.neededAs es "displayName" "display_name" Check.text <*>
    Check.needed es "name" Check.text <*>
    Check.needed es "type" FieldType.check <*>
    Check.optional es "required" none (Check.nullable Check.flag) <*>
    Check.optional es "default" .null .valid <*>
    Check.optional es "description" none (Check.nullable Check.text) <*>
    options <*>
    Check.optionalAs es "typeOptions" "type_options" none (Check.nullable Check.anyMap) <*>
    Check.optional es "routing" none (Check.nullable RoutingRule.check)

/-! ## Fields -/

mutual

/-- Reading a field, inside which fewer than `room` more may stand one inside another. -/
def Field.checkWithin : Nat → Node → Checked Field
  | 0, _ => .issue .nestedTooDeep
  | room + 1, .map es => Field.assemble es (Field.checkOptions room es)
  | _ + 1, _ => .issue .notAnObject

/-- Reading the options of a field. -/
def Field.checkOptions (room : Nat) :
    List (Scalar × Node) → Checked (Option (List (Choice Field)))
  | [] => .valid none
  | (k, v) :: rest =>
    if k = .str "options" then (Choice.checkList room v).under (.key "options")
    else Field.checkOptions room rest

/-- Reading a list of options, or null. -/
def Choice.checkList (room : Nat) : Node → Checked (Option (List (Choice Field)))
  | .scalar .null => .valid none
  | .list xs => (Choice.checkItems room 0 xs).map some
  | _ => .issue .notAList

/-- Reading options from a position on. -/
def Choice.checkItems (room position : Nat) : List Node → Checked (List (Choice Field))
  | [] => .valid []
  | x :: xs =>
    List.cons <$> (Choice.check room x).under (.index position) <*>
      Choice.checkItems room (position + 1) xs

/-- Reading an option. -/
def Choice.check (room : Nat) : Node → Checked (Choice Field)
  | .map es =>
    Choice.prefer (Choice.checkGroup es (Field.checkValues room es)) (Choice.checkLiteral es)
  | _ => Choice.prefer (.issue .notAnObject) (.issue .notAnObject)

/-- Reading the fields of a group. -/
def Field.checkValues (room : Nat) : List (Scalar × Node) → Checked (List Field)
  | [] => .valid []
  | (k, v) :: rest =>
    if k = .str "values" then (Field.checkList room v).under (.key "values")
    else Field.checkValues room rest

/-- Reading a list of fields. -/
def Field.checkList (room : Nat) : Node → Checked (List Field)
  | .list xs => Field.checkItems room 0 xs
  | _ => .issue .notAList

/-- Reading fields from a position on. -/
def Field.checkItems (room position : Nat) : List Node → Checked (List Field)
  | [] => .valid []
  | x :: xs =>
    List.cons <$> (Field.checkWithin room x).under (.index position) <*>
      Field.checkItems room (position + 1) xs

end

/-- Reading a field. A group that holds too many fields one inside another is no valid group, and so
it is read as a labelled value. -/
def Field.check (node : Node) : Checked Field :=
  Field.checkWithin deepestShown node

/-- How many more fields may stand one inside another inside a field that is read. -/
def nestedRoom : Nat := deepestShown - 1

theorem Field.check_map (es : Entries) :
    Field.check (.map es) = Field.assemble es (Field.checkOptions nestedRoom es) := rfl

end RoutedFields

import RoutedFields.Proofs.Document.Parts
import RoutedFields.Proofs.Field.Combination

/-!
# Routing rules

* `RoutingRule.check_toNode`: a rule that is written as a node and read back is the same rule.
* `routing_of_combine_toNode`: a field combined from a rule has that rule.
* `Routing.send_eq_ok_iff`, `Routing.wholeBody_eq`, `Routing.header_eq_ok_iff`,
  `Routing.arrayQuery_eq_ok`: the form of each rule.
-/

namespace RoutedFields

/-! ## Reading a rule back -/

theorem entriesFrom_headerEntries (headers : List (String × String)) :
    Check.entriesFrom Check.text (RequestRule.headerEntries headers) = .valid headers := by
  induction headers with
  | nil => rfl
  | cons header headers ih =>
    change (fun key value others => (key, value) :: others) <$> Checked.valid header.1 <*>
      Checked.valid header.2 <*>
        Check.entriesFrom Check.text (RequestRule.headerEntries headers) = _
    rw [ih]
    rfl

theorem RequestRule.check_toNode (rule : RequestRule) :
    RequestRule.check rule.toNode = .valid rule := by
  obtain ⟨body, headers⟩ := rule
  have hheaders (hs : List (String × String)) :
      Check.nullable (Check.textMap Check.text) (.map (headerEntries hs)) = .valid (some hs) := by
    rw [Check.nullable, Check.textMap, entriesFrom_headerEntries]
    · rfl
    · rintro ⟨⟩
  cases body with
  | none =>
    cases headers with
    | none => rfl
    | some hs =>
      change RequestRule.mk <$> Checked.valid none <*>
        (Check.nullable (Check.textMap Check.text) (.map (headerEntries hs))).under _ = _
      rw [hheaders]
      rfl
  | some body =>
    cases headers with
    | none => rfl
    | some hs =>
      change RequestRule.mk <$> Checked.valid (some body) <*>
        (Check.nullable (Check.textMap Check.text) (.map (headerEntries hs))).under _ = _
      rw [hheaders]
      rfl

theorem nullable_toNode {α : Type} {check : Node → Checked α} {es : Entries} {a : α}
    (h : check (.map es) = .valid a) : Check.nullable check (.map es) = .valid (some a) := by
  rw [Check.nullable, h]
  · rfl
  · rintro ⟨⟩

/-- A rule that is written as a node and read back is the same rule. -/
theorem RoutingRule.check_toNode (rule : RoutingRule) :
    RoutingRule.check rule.toNode = .valid rule := by
  obtain ⟨send, request⟩ := rule
  cases send with
  | none =>
    cases request with
    | none => rfl
    | some request =>
      change RoutingRule.mk <$> Checked.valid none <*>
        (Check.nullable RequestRule.check request.toNode).under _ = _
      rw [RequestRule.toNode, nullable_toNode request.check_toNode]
      rfl
  | some send =>
    cases request with
    | none => rfl
    | some request =>
      change RoutingRule.mk <$> Checked.valid (some send) <*>
        (Check.nullable RequestRule.check request.toNode).under _ = _
      rw [RequestRule.toNode, nullable_toNode request.check_toNode]
      rfl

/-- A field combined from a rule has that rule. -/
theorem routing_of_combine_toNode {sources : List Entries} {field : Field} {rule : RoutingRule}
    (h : combine sources = .valid field)
    (hrule : firstValue? sources "routing" = some rule.toNode) : field.routing = some rule := by
  rcases routing_of_combine h with ⟨hnone, _⟩ | ⟨v, hv, hcheck⟩
  · rw [hnone] at hrule
    cases hrule
  · obtain rfl := Option.some.inj (hv.symm.trans hrule)
    rw [RoutingRule.toNode, nullable_toNode rule.check_toNode] at hcheck
    injection hcheck with hcheck
    exact hcheck.symm

/-! ## The form of each rule -/

namespace Routing

/-- The rule that sends an expression under a name. -/
def sendRule (target property expression : String) : RoutingRule :=
  ⟨some ⟨target, property, expression, false⟩, none⟩

/-- The rule that sends an expression as the whole body. -/
def bodyRule (expression : String) : RoutingRule :=
  ⟨none, some ⟨some expression, none⟩⟩

/-- The rule that sends the value in a header. -/
def headerRule (name : String) : RoutingRule :=
  ⟨none, some ⟨none, some [(name, Expression.value)]⟩⟩

theorem send_eq_ok_iff {target expression : String} {property : Node} {rule : RoutingRule} :
    send target property (.str expression) = .ok rule ↔
      ∃ name, property = .str name ∧ rule = sendRule target name expression := by
  constructor
  · intro h
    obtain ⟨_, hsend, hrule⟩ := bind_eq_ok_iff.mp h
    obtain rfl := pure_eq_ok_iff.mp hrule
    cases property with
    | scalar s => cases s <;> cases hsend; exact ⟨_, rfl, rfl⟩
    | list xs => cases hsend
    | map es => cases hsend
  · rintro ⟨name, rfl, rfl⟩
    rfl

theorem wholeBody_eq (expression : String) :
    wholeBody (.str expression) = .ok (bodyRule expression) :=
  rfl

theorem header_eq_ok_iff {name : Node} {rule : RoutingRule} :
    header name = .ok rule ↔ ∃ s, name = .str s ∧ rule = headerRule s := by
  constructor
  · intro h
    cases name with
    | scalar s => cases s <;> cases h; exact ⟨_, rfl, rfl⟩
    | list xs => cases h
    | map es => cases h
  · rintro ⟨s, rfl, rfl⟩
    rfl

/-- The expression for the items of a collection in the query. -/
def itemsExpression (parameter : Node) : String :=
  if isJoined parameter then Expression.arrayItemsJoined else Expression.arrayItems

theorem arrayQuery_eq_ok {parameter : Node} {rule : RoutingRule}
    (h : arrayQuery parameter = .ok rule) :
    ∃ name, parameter.get? "name" = some (.str name) ∧
      rule = sendRule "query" name (itemsExpression parameter) := by
  cases parameter with
  | scalar s => cases h
  | list xs => cases h
  | map es =>
    obtain ⟨name, hname, hquery⟩ := bind_eq_ok_iff.mp h
    obtain ⟨s, rfl, rfl⟩ := send_eq_ok_iff.mp hquery
    rw [orFault_eq_ok_iff, required_eq_ok_iff] at hname
    exact ⟨s, hname, rfl⟩

end Routing

end RoutedFields

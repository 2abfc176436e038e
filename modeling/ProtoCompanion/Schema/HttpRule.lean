/-
Module: ProtoCompanion.Schema.HttpRule
Purpose: The HTTP bindings of methods, and those of a file by the location path of the method.
Main exports: HttpRule, HttpPattern, HttpPattern.verbAndTemplate, HttpRuleTable
-/
import ProtoCompanion.Schema.Comment

namespace ProtoCompanion

/-- The verb of a binding with its URL template. -/
inductive HttpPattern where
  | get (path : String)
  | put (path : String)
  | post (path : String)
  | delete (path : String)
  | patch (path : String)
  | custom (kind path : String)
deriving Repr, DecidableEq, Inhabited

/-- The verb and the URL template; a custom binding names its own verb. -/
def HttpPattern.verbAndTemplate : HttpPattern → String × String
  | get path => ("GET", path)
  | put path => ("PUT", path)
  | post path => ("POST", path)
  | delete path => ("DELETE", path)
  | patch path => ("PATCH", path)
  | custom kind path => (kind, path)

/-- An HTTP binding apart from its additional bindings. -/
structure HttpBinding where
  selector : String := ""
  body : String := ""
  responseBody : String := ""
  pattern? : Option HttpPattern := none
deriving Repr, DecidableEq, Inhabited

/-- The `google.api.http` annotation of a method. -/
inductive HttpRule where
  | mk (binding : HttpBinding) (additional : List HttpRule)
deriving Repr, Inhabited

namespace HttpRule

def binding : HttpRule → HttpBinding
  | .mk binding _ => binding

def additional : HttpRule → List HttpRule
  | .mk _ additional => additional

/-- The verb and the URL template of the rule, if it has a pattern. -/
def verbAndTemplate? (rule : HttpRule) : Option (String × String) :=
  rule.binding.pattern?.map HttpPattern.verbAndTemplate

end HttpRule

/-! ## Rules of a file -/

/-- The location path of a method: services are field 6 of a file, and methods field 2 of a
service. -/
def methodPath (service method : Nat) : LocationPath :=
  [6, Int32.ofNat service, 2, Int32.ofNat method]

/-- The rules of the methods of one file. -/
structure HttpRuleTable where
  byPath : Std.TreeMap LocationPath HttpRule := ∅

namespace HttpRuleTable

/-- Set the rule of a method. -/
def insert (rules : HttpRuleTable) (service method : Nat) (rule : HttpRule) : HttpRuleTable :=
  ⟨rules.byPath.insert (methodPath service method) rule⟩

/-- The rule of the method at a path. -/
def get? (rules : HttpRuleTable) (path : LocationPath) : Option HttpRule := rules.byPath[path]?

/-- The number of methods that have a rule. -/
def size (rules : HttpRuleTable) : Nat := rules.byPath.size

end HttpRuleTable

end ProtoCompanion

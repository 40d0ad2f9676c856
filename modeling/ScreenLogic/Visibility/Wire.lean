import ScreenLogic.Decode.Basic
import ScreenLogic.Logic.Wire
import ScreenLogic.Visibility.Condition

/-!
# Visibility conditions on the wire

The full form is an object with an entry `conditions` and perhaps an entry `logic`;
anything else is read as the only entry of a condition. What is written is always the
full form.
-/

namespace ScreenLogic

namespace AuthContext

def fields : List Decode.Field :=
  [.required "signedIn" Decode.flag, .defaulted "facts" (Decode.list Decode.text)]

def decode : Decoder AuthContext := fun v => do
  let present ← Decode.record "AuthContext" fields v
  let signedIn ← Decode.need present "signedIn" Decode.flag
  let facts ← Decode.orElse present "facts" (Decode.list Decode.text) []
  return ofFacts signedIn facts

def toValue (auth : AuthContext) : Value :=
  .obj [("facts", .ofStrings auth.facts), ("signedIn", .bool auth.signedIn)]

end AuthContext

namespace Combination

def key : Combination → String
  | .all => "and"
  | .any => "or"

def decode : Decoder Combination := Decode.variant [("and", .all), ("or", .any)]

/-- Combination by all is what an absent entry means. -/
def ofValue : Option Value → Except ExprError Combination
  | none => .ok .all
  | some v =>
    if v = .str "and" then .ok .all
    else if v = .str "or" then .ok .any
    else .error (.invalidLogic v.plain)

end Combination

namespace ConditionEntry

def ofValue : Value → Except ExprError ConditionEntry
  | .obj [(key, v)] =>
    if key = "auth" then
      match v with
      | .str name => .ok (.auth (.ofName name))
      | v => .error (.invalidShape "auth" ("expected a string, got " ++ v.compact))
    else (Expr.ofValue (.obj [(key, v)])).map .expr
  | v => (Expr.ofValue v).map .expr

def toValue : ConditionEntry → Value
  | .auth condition => .obj [("auth", .str condition.name)]
  | .expr e => e.toValue

def ofItems : List Value → Except ExprError (List ConditionEntry)
  | [] => .ok []
  | v :: rest => do
    let entry ← ofValue v
    let entries ← ofItems rest
    return entry :: entries

end ConditionEntry

namespace Condition

/-- How the entries combine is read before the entries are. -/
def ofValue (v : Value) : Except ExprError Condition :=
  match v.field? "conditions" with
  | some conditions => do
    let logic ← Combination.ofValue (v.field? "logic")
    match conditions with
    | .arr items => return ⟨← ConditionEntry.ofItems items, logic⟩
    | other => .error (.invalidShape "conditions" ("expected an array, got " ++ other.compact))
  | none => do return ⟨[← ConditionEntry.ofValue v], .all⟩

def decode : Decoder Condition := Decode.expression ofValue

def toValue (c : Condition) : Value :=
  .obj [("conditions", .arr (c.entries.map ConditionEntry.toValue)), ("logic", .str c.logic.key)]

end Condition

end ScreenLogic

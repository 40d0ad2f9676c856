import ScreenLogic.Logic.Eval
import ScreenLogic.Visibility.Auth

/-!
# Visibility conditions

A condition decides whether an element is shown. It combines entries, which are auth
leaves or expressions, by all or by any of them.
-/

namespace ScreenLogic

inductive Combination where
  | all
  | any
  deriving DecidableEq

inductive ConditionEntry where
  | auth (condition : AuthCondition)
  | expr (expr : Expr)
  deriving DecidableEq

structure Condition where
  entries : List ConditionEntry
  logic : Combination
  deriving DecidableEq

namespace Condition

def ofExpr (e : Expr) : Condition := ⟨[.expr e], .all⟩

def always : Condition := ofExpr (.literal (.bool true))

def never : Condition := ofExpr (.literal (.bool false))

def whenTrue (path : String) : Condition := ofExpr (.reference path)

def signedIn : Condition := ⟨[.auth .signedIn], .all⟩

def signedOut : Condition := ⟨[.auth .signedOut], .all⟩

end Condition

def ConditionEntry.eval (model : Value) (auth : Option AuthContext) : ConditionEntry → Bool
  | .auth condition => condition.eval auth
  | .expr e => e.eval model

def Condition.eval (model : Value) (auth : Option AuthContext) (c : Condition) : Bool :=
  match c.logic with
  | .all => c.entries.all (ConditionEntry.eval model auth)
  | .any => c.entries.any (ConditionEntry.eval model auth)

/-- An element without a condition is visible. -/
def isVisible (model : Value) (auth : Option AuthContext) : Option Condition → Bool
  | none => true
  | some c => c.eval model auth

end ScreenLogic

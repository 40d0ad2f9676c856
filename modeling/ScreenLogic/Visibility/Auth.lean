/-!
# Authentication facts

Whether somebody is signed in, and named facts about them. The names `signedIn` and
`signedOut` are never looked up among the facts when a condition is read.
-/

namespace ScreenLogic

inductive AuthCondition where
  | signedIn
  | signedOut
  | fact (name : String)
  deriving DecidableEq

namespace AuthCondition

def ofName (name : String) : AuthCondition :=
  if name = "signedIn" then .signedIn else if name = "signedOut" then .signedOut else .fact name

def name : AuthCondition → String
  | .signedIn => "signedIn"
  | .signedOut => "signedOut"
  | .fact name => name

end AuthCondition

/-- The facts are distinct and in order. -/
structure AuthContext where
  signedIn : Bool
  facts : List String
  deriving DecidableEq

namespace AuthContext

def insertFact : List String → String → List String
  | [], fact => [fact]
  | f :: rest, fact =>
    if f = fact then f :: rest
    else if fact < f then fact :: f :: rest
    else f :: insertFact rest fact

def ofFacts (signedIn : Bool) (facts : List String) : AuthContext :=
  ⟨signedIn, facts.foldl insertFact []⟩

def withFact (auth : AuthContext) (fact : String) : AuthContext :=
  { auth with facts := insertFact auth.facts fact }

/-- Signed in without facts. -/
def bare : AuthContext := ⟨true, []⟩

def signedOut : AuthContext := ⟨false, []⟩

def holds (auth : AuthContext) : AuthCondition → Bool
  | .signedIn => auth.signedIn
  | .signedOut => !auth.signedIn
  | .fact name => auth.facts.contains name

end AuthContext

/-- Without a context nobody is signed in and no fact is known. -/
def AuthCondition.eval (auth : Option AuthContext) (condition : AuthCondition) : Bool :=
  match auth with
  | some auth => auth.holds condition
  | none => condition == .signedOut

end ScreenLogic

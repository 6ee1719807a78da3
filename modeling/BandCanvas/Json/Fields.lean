import BandCanvas.Json.Written

namespace BandCanvas.Json.Written

def text? : Written → Option String
  | string s => s
  | _ => none

def bool? : Written → Option Bool
  | bool b => some b
  | _ => none

def float? : Written → Option Float
  | number n =>
    match n.integer? with
    | some i => some (Float.ofInt i)
    | none => n.float?
  | _ => none

/-- An integer from zero up to `bound`, written without fraction and exponent. -/
def nat? (bound : Nat) : Written → Option Nat
  | number n =>
    match n.integer? with
    | some (.ofNat i) => if i ≤ bound then some i else none
    | _ => none
  | _ => none

def optional? {α : Type} (read : Written → Option α) : Written → Option (Option α)
  | null => some none
  | w => (read w).map some

def list? {α : Type} (read : Written → Option α) : Written → Option (List α)
  | array ws => ws.mapM read
  | _ => none

def noDuplicates (names : List String) (ms : List (Option String × Written)) : Bool :=
  names.all fun name => (ms.filter fun m => m.1 == some name).length ≤ 1

def fields? (names : List String) : Written → Option (String → Option Written)
  | object ms =>
    if (ms.all fun m => m.1.isSome) && noDuplicates names ms then
      some fun name => (ms.find? fun m => m.1 == some name).map Prod.snd
    else none
  | array ws => if ws.length ≤ names.length then some fun name => (names.zip ws).lookup name else none
  | _ => none

def required {α : Type} (read : Written → Option α) : Option Written → Option α
  | some w => read w
  | none => none

def withDefault {α : Type} (default : α) (read : Written → Option α) : Option Written → Option α
  | some w => read w
  | none => some default

end BandCanvas.Json.Written

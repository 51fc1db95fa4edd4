import Mathlib.Data.List.Infix
import Mathlib.Data.List.Perm.Basic

/-!
# The Go values the handler works with

Errors as `fmt.Errorf` builds them and `errors.Is` finds them, `strings.Contains`, and
string maps together with the order in which one `range` loop visits them. The runtime
chooses that order afresh for every loop, so a loop over a map is modelled over every
permutation of its entries.
-/

namespace OidcMiddleware

/-- An argument of `fmt.Errorf`, kept as the value it prints. -/
inductive Arg where
  | str (s : String)
  | time (t : Int)
  | strs (l : List String)
  deriving DecidableEq, Repr

/-- A Go `error`: `fmt.Errorf` with its format and arguments, the same with a last `%w`
verb wrapping an error, or an error of a library known by its text. -/
inductive Error where
  | errorf (format : String) (args : List Arg)
  | wrapf (format : String) (args : List Arg) (err : Error)
  | lib (text : String)
  deriving DecidableEq, Repr

def errorsIs (err target : Error) : Bool :=
  err == target ||
    match err with
    | .wrapf _ _ inner => errorsIs inner target
    | _ => false

def signatureVerificationText : String := "failed to verify signature"

def errSignatureVerification : Error := .errorf signatureVerificationText []

def stringsContains (s substr : String) : Bool := decide (substr.toList <:+: s.toList)

/-! ## Maps -/

structure GoMap (V : Type) where
  entries : List (String × V)
  nodup : (entries.map Prod.fst).Nodup

def GoMap.lookup {V : Type} (m : GoMap V) (k : String) : Option V := m.entries.lookup k

def GoMap.empty (V : Type) : GoMap V := ⟨[], List.nodup_nil⟩

/-- The order of one `for k, v := range m`: some permutation of the map's entries. -/
structure RangeOrder (V : Type) where
  visit : GoMap V → List (String × V)
  perm : ∀ m, (visit m).Perm m.entries

def RangeOrder.stored (V : Type) : RangeOrder V := ⟨GoMap.entries, fun _ => List.Perm.refl _⟩

theorem RangeOrder.mem_visit {V : Type} (order : RangeOrder V) (m : GoMap V) (e : String × V) :
    e ∈ order.visit m ↔ e ∈ m.entries :=
  (order.perm m).mem_iff

@[simp] theorem RangeOrder.visit_empty {V : Type} (order : RangeOrder V) :
    order.visit (GoMap.empty V) = [] :=
  List.perm_nil.mp (order.perm _)

/-! ## Opaque values the handler passes on -/

structure Context where
  cancelled : Bool
  deadline : Option Int
  deriving DecidableEq, Repr

structure HttpClient where
  name : String
  deriving DecidableEq, Repr

def defaultClient : HttpClient := ⟨"http.DefaultClient"⟩

def second : Int := 1000000000

end OidcMiddleware

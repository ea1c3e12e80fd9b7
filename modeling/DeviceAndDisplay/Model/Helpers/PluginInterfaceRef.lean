import Mathlib.Data.Int.Notation
import Mathlib.Data.Nat.Notation
import Mathlib.Logic.Function.Basic

/-! # PluginInterfaceRef

The references to plugin interfaces of a program. Each query that returns an interface has taken a
reference on it, which has to be released, so the interfaces are told apart by the query. -/

namespace DeviceAndDisplay.Helpers

/-- `_interface`; `none` is the null pointer. -/
abbrev InterfacePtr := Option ℕ

/-- `PluginInterfaceBuilder`, with the answers to the queries of `createInterface`. -/
structure PluginInterfaceBuilder where
  hasController : Bool
  retryCount : ℤ
  /-- The query returns an interface. -/
  queries : ℕ → Bool

structure PluginInterfaces where
  /-- The content of the references; `none` if there is no such object. -/
  refs : ℕ → Option InterfacePtr := fun _ => none
  /-- The number of interfaces that queries have returned. -/
  acquired : ℕ := 0
  /-- How often `Release` was called for an interface. -/
  released : ℕ → ℕ := fun _ => 0

namespace PluginInterfaces

/-- The loop of `createInterface`: one of the attempts succeeds. -/
def tryQuery (queries : ℕ → Bool) : (attempts count : ℕ) → Bool
  | 0, _ => false
  | attempts + 1, count => queries count || tryQuery queries attempts (count + 1)

/-- `createInterface` of the default implementation; the body of the loop is run at least once. -/
def query (builder : PluginInterfaceBuilder) (s : PluginInterfaces) :
    InterfacePtr × PluginInterfaces :=
  if builder.hasController ∧ tryQuery builder.queries (max builder.retryCount 1).toNat 0 then
    (some s.acquired, { s with acquired := s.acquired + 1 })
  else (none, s)

/-- `_interface->Release()` of `Reset`, unless the pointer is null. -/
def release (interface : InterfacePtr) (s : PluginInterfaces) : PluginInterfaces :=
  match interface with
  | none => s
  | some a => { s with released := Function.update s.released a (s.released a + 1) }

def setRef (ref : ℕ) (content : Option InterfacePtr) (s : PluginInterfaces) : PluginInterfaces :=
  { s with refs := Function.update s.refs ref content }

/-- What a reference that is move constructed has, and what the other one keeps. -/
def moved (other : InterfacePtr) : InterfacePtr × InterfacePtr := (other, none)

/-- `PluginInterfaceBuilder::createInterface`: the result is moved out of a reference that is
destroyed then. -/
def createInterface (ref : ℕ) (builder : PluginInterfaceBuilder) (s : PluginInterfaces) :
    PluginInterfaces :=
  let (interface, s) := s.query builder
  let (result, left) := moved interface
  (s.release left).setRef ref (some result)

end PluginInterfaces

inductive RefOperation where
  | construct (ref : ℕ)
  | createInterface (ref : ℕ) (builder : PluginInterfaceBuilder)
  | moveConstruct (ref other : ℕ)
  | moveAssign (ref other : ℕ)
  | reset (ref : ℕ)
  | destroy (ref : ℕ)

/-- An operation of the program; it constructs a new object, and uses objects that are there. -/
def PluginInterfaces.step (s : PluginInterfaces) : RefOperation → Option PluginInterfaces
  | .construct ref =>
      match s.refs ref with
      | none => some (s.setRef ref (some none))
      | some _ => none
  | .createInterface ref builder =>
      match s.refs ref with
      | none => some (s.createInterface ref builder)
      | some _ => none
  | .moveConstruct ref other =>
      match s.refs ref, s.refs other with
      | none, some interface =>
          let (result, left) := moved interface
          some ((s.setRef other (some left)).setRef ref (some result))
      | _, _ => none
  | .moveAssign ref other =>
      match s.refs ref, s.refs other with
      | some _, some interface =>
          if ref ≠ other then
            some ((s.setRef ref (some interface)).setRef other (some none))
          else some s
      | _, _ => none
  | .reset ref =>
      match s.refs ref with
      | some interface => some ((s.release interface).setRef ref (some none))
      | none => none
  | .destroy ref =>
      match s.refs ref with
      | some interface => some ((s.release interface).setRef ref none)
      | none => none

end DeviceAndDisplay.Helpers

/-
  Cidre.NiriConfig.Document

  What the config parser works on: paths, the nodes of a KDL document, and
  decoding that reports errors and goes on.  Paths are taken apart into their
  components, as `std::path` compares and joins them; names that are not UTF-8
  are left out.
-/

import Mathlib.Data.List.Basic

namespace Cidre.NiriConfig

/-! ## Paths -/

inductive Component where
  /-- A leading `.`; every other one disappears. -/
  | curDir
  | parentDir
  | normal (name : String)
deriving DecidableEq, Repr

structure Path where
  absolute : Bool
  components : List Component
deriving DecidableEq, Repr

namespace Path

def empty : Path := ⟨false, []⟩

def join (base path : Path) : Path :=
  if path.absolute then path
  else if base = empty then path
  else ⟨base.absolute, base.components ++ path.components.filter (· ≠ .curDir)⟩

def parent (path : Path) : Option Path :=
  if path.components.isEmpty then none
  else some { path with components := path.components.dropLast }

def fileName (path : Path) : Option String :=
  match path.components.getLast? with
  | some (.normal name) => some name
  | _ => none

/-- The rest of the components when they start with `lead`. -/
def afterLead : List Component → List Component → Option (List Component)
  | [], rest => some rest
  | _ :: _, [] => none
  | l :: lead, c :: rest => if l = c then afterLead lead rest else none

/-- `strip_prefix`. -/
def stripLead (path base : Path) : Option Path :=
  if base = empty then some path
  else if base.absolute = path.absolute then
    (afterLead base.components path.components).map (Path.mk false)
  else none

def componentText : Component → String
  | .curDir => "."
  | .parentDir => ".."
  | .normal name => name

def text (path : Path) : String :=
  (if path.absolute then "/" else "") ++ "/".intercalate (path.components.map componentText)

end Path

/-- `~`, as the first component of a path. -/
def homeMark : Path := ⟨false, [.normal "~"]⟩

/-! ## KDL nodes -/

inductive Literal where
  | null
  | bool (b : Bool)
  | int (digits : String)
  | decimal (digits : String)
  | string (s : String)
deriving DecidableEq, Repr

structure Value where
  typeName : Option String
  literal : Literal
deriving DecidableEq, Repr

inductive Node where
  | mk (typeName : Option String) (name : String) (arguments : List Value)
      (properties : List (String × Value)) (children : List Node)

namespace Node

def typeName : Node → Option String
  | mk typeName _ _ _ _ => typeName

def name : Node → String
  | mk _ name _ _ _ => name

def arguments : Node → List Value
  | mk _ _ arguments _ _ => arguments

def properties : Node → List (String × Value)
  | mk _ _ _ properties _ => properties

def children : Node → List Node
  | mk _ _ _ _ children => children

end Node

/-! ## Decoding -/

/-- `knuffel::errors::DecodeError`, without its places in the text. -/
inductive DecodeError where
  | unexpected (kind message : String)
  | missing (message : String)
  | conversion (message : String)
  | unsupported (message : String)
  /-- Of the parser of documents or of a scalar. -/
  | other (message : String)
deriving DecidableEq, Repr

/-- What a decoder returns, and the errors it emitted on the way.  No decoder
    reads the errors, so they are its output and not its state. -/
structure Decode (α : Type) where
  result : Except DecodeError α
  errors : List DecodeError

namespace Decode

variable {α β : Type}

def ok (a : α) : Decode α := ⟨.ok a, []⟩

/-- `return Err(e)`. -/
def fail (e : DecodeError) : Decode α := ⟨.error e, []⟩

/-- `ctx.emit_error(e)`. -/
def emit (e : DecodeError) : Decode Unit := ⟨.ok (), [e]⟩

def emitAll (es : List DecodeError) : Decode Unit := ⟨.ok (), es⟩

def andThen (x : Decode α) (f : α → Decode β) : Decode β :=
  match x.result with
  | .error e => ⟨.error e, x.errors⟩
  | .ok a => ⟨(f a).result, x.errors ++ (f a).errors⟩

instance : Monad Decode where
  pure := ok
  bind := andThen

/-- The decoder returned `a` and nothing is wrong. -/
def Clean (x : Decode α) (a : α) : Prop := x.result = .ok a ∧ x.errors = []

theorem clean_pure {a b : α} : Clean (pure a) b ↔ a = b :=
  ⟨fun h => Except.ok.inj h.1, fun h => ⟨congrArg _ h, rfl⟩⟩

theorem not_clean_emit {e : DecodeError} {u : Unit} : ¬Clean (emit e) u :=
  fun h => List.cons_ne_nil e [] h.2

theorem clean_bind {x : Decode α} {f : α → Decode β} {b : β} :
    Clean (x >>= f) b ↔ ∃ a, Clean x a ∧ Clean (f a) b := by
  show Clean (andThen x f) b ↔ _
  unfold andThen Clean
  cases hx : x.result with
  | error e => exact ⟨fun h => (nomatch h.1), fun ⟨a, h, _⟩ => (nomatch h.1)⟩
  | ok a =>
    dsimp only
    rw [List.append_eq_nil_iff]
    constructor
    · rintro ⟨hresult, hx', herrors⟩
      exact ⟨a, ⟨rfl, hx'⟩, hresult, herrors⟩
    · rintro ⟨a', ⟨ha, hx'⟩, hresult, herrors⟩
      cases ha
      exact ⟨hresult, hx', herrors⟩

theorem clean_map {x : Decode α} {f : α → β} {b : β} :
    Clean (f <$> x) b ↔ ∃ a, Clean x a ∧ f a = b := by
  show Clean (x >>= fun a => pure (f a)) b ↔ _
  rw [clean_bind]
  exact exists_congr fun a => and_congr_right fun _ => clean_pure

end Decode

end Cidre.NiriConfig

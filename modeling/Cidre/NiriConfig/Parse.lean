/-
  Cidre.NiriConfig.Parse

  Parsing a config with its includes: one file after the other into a shared
  config, each file with its own base path, include stack and depth.  The fuel
  bounds the depth of the recursion and nothing else; the parser itself stops by
  the recursion limit.
-/

import Cidre.NiriConfig.Decoding

namespace Cidre.NiriConfig

def recursionLimit : Nat := 10

/-- `knuffel::Error`: the file and its errors. -/
structure ParseError where
  file : String
  errors : List DecodeError
deriving DecidableEq, Repr

/-- What a file is parsed with (`BasePath`, `RootBase`, `Recursion` and
    `IncludeStack`). -/
structure FileContext where
  basePath : Path
  rootBase : Path
  recursion : Nat
  includeStack : List Path

variable {S : Schema}

/-- What the files share. -/
structure Shared (S : Schema) where
  settings : Settings S
  includes : List Path
  includeErrors : List ParseError

/-- How far the parsing of one file is: the sections and the workspace names it
    had so far, the errors emitted, and what the files share. -/
structure Progress (S : Schema) where
  seen : List String
  workspaceNames : List String
  errors : List DecodeError
  shared : Shared S

namespace Progress

def start (shared : Shared S) : Progress S := ⟨[], [], [], shared⟩

def emit (st : Progress S) (e : DecodeError) : Progress S :=
  { st with errors := st.errors ++ [e] }

end Progress

variable (env : Env S)

/-- Parses the text of an included file, in a context and under a name. -/
abbrev ParseFile (S : Schema) :=
  FileContext → String → String → Shared S → Option (Except ParseError Unit × Shared S)

/-! ## Includes -/

def includeOption (isOptional : Bool) (property : String × Value) : Decode Bool :=
  match property.1 with
  | "optional" => env.scalarBool property.2
  | name => do
      Decode.emit (unexpectedProperty env name)
      pure isOptional

/-- The path of an `include` node, and whether the file may be missing. -/
def includeArguments (node : Node) : Decode (Path × Bool) := do
  match node.arguments with
  | [] => Decode.fail (.missing "additional argument for include path is required")
  | val :: extra =>
      let path ← env.scalarPath val
      Decode.emitAll (extra.head?.toList.map fun _ =>
        .unexpected "argument" "unexpected argument")
      let isOptional ← node.properties.foldlM (includeOption env) false
      Decode.emitAll (node.children.map fun child =>
        .unexpected "node" ("unexpected node `" ++ env.escapeDefault child.name ++ "`"))
      pure (path, isOptional)

/-- The path an include stands for: `~` is the home directory, other paths start
    from the directory of the including file. -/
def includedPath (base path : Path) : Except DecodeError Path :=
  match path.stripLead homeMark with
  | some rest =>
      match env.homeDir with
      | some home => .ok (home.join rest)
      | none => .error (.missing
          ("error retrieving home directory to expand " ++ env.debugPath path))
  | none => .ok (base.join path)

/-- The context of an included file, or why it is not entered. -/
def enterInclude (ctx : FileContext) (path : Path) : Except DecodeError (Path × FileContext) :=
  match includedPath env ctx.basePath path with
  | .error e => .error e
  | .ok path =>
      if ctx.recursion + 1 = recursionLimit then
        .error (.missing ("reached the recursion limit; includes cannot be " ++
          toString recursionLimit ++ " levels deep"))
      else if path.fileName.isNone then
        .error (.missing "include path doesn't have a valid file name")
      -- Recursive includes stop at the limit anyway; this is a nicer error message.
      else if path ∈ ctx.includeStack then
        .error (.missing "recursive include (file includes itself)")
      else
        .ok (path,
          { ctx with
            basePath := path.parent.getD .empty
            recursion := ctx.recursion + 1
            includeStack := path :: ctx.includeStack })

/-- The file name in errors: relative to the main config where possible. -/
def fileLabel (rootBase path : Path) : String := ((path.stripLead rootBase).getD path).text

def readInclude (parseFile : ParseFile S) (inner : FileContext) (path : Path)
    (isOptional : Bool) (st : Progress S) : Option (Progress S) :=
  match env.readToString path with
  | .error err =>
      if isOptional && err.notFound then some st
      else some (st.emit (.missing ("failed to read included config from " ++
        env.debugPath path ++ ": " ++ err.message)))
  | .ok text =>
      match parseFile inner (fileLabel inner.rootBase path) text st.shared with
      | none => none
      | some (.ok (), shared) => some { st with shared }
      | some (.error err, shared) =>
          some ({ st with shared :=
            { shared with includeErrors := shared.includeErrors ++ [err] } }.emit
              (.missing "failed to parse included config"))

/-- The `include` branch. -/
def decodeInclude (parseFile : ParseFile S) (ctx : FileContext) (node : Node)
    (st : Progress S) : Option (Except DecodeError Unit × Progress S) :=
  let arguments := includeArguments env node
  let st := { st with errors := st.errors ++ arguments.errors }
  match arguments.result with
  | .error e => some (.error e, st)
  | .ok (path, isOptional) =>
      match enterInclude env ctx path with
      | .error e => some (.ok (), st.emit e)
      | .ok (path, inner) =>
          -- Stored even if the file fails to read or parse, so that it gets watched.
          let st := { st with shared :=
            { st.shared with includes := st.shared.includes ++ [path] } }
          (readInclude env parseFile inner path isOptional st).map fun st => (.ok (), st)

/-! ## Files -/

/-- A node that is no include. -/
def decodePart (ctx : FileContext) (node : Node) (st : Progress S) :
    Except DecodeError Unit × Progress S :=
  match decodeSection env st.workspaceNames node with
  | none =>
      (.ok (), st.emit (.unexpected "node"
        ("unexpected node `" ++ env.escapeDefault node.name ++ "`")))
  | some decoded =>
      let st := { st with errors := st.errors ++ decoded.errors }
      match decoded.result with
      | .error e => (.error e, st)
      | .ok (part, names) =>
          (.ok (),
            { st with
              workspaceNames := names
              shared := { st.shared with
                settings := st.shared.settings.apply ctx.recursion part } })

def decodeNode (parseFile : ParseFile S) (ctx : FileContext) (node : Node)
    (st : Progress S) : Option (Except DecodeError Unit × Progress S) :=
  if ¬multipart.contains node.name ∧ st.seen.contains node.name then
    some (.ok (), st.emit (.unexpected "node"
      ("duplicate node `" ++ node.name ++ "`, single node expected")))
  else
    let st := if multipart.contains node.name then st
      else { st with seen := node.name :: st.seen }
    if node.name = "include" then decodeInclude env parseFile ctx node st
    else some (decodePart env ctx node st)

/-- `ConfigPart::decode_children`. -/
def decodeChildren (parseFile : ParseFile S) (ctx : FileContext) :
    List Node → Progress S → Option (Except DecodeError Unit × Progress S)
  | [], st => some (.ok (), st)
  | node :: nodes, st =>
      match decodeNode env parseFile ctx node st with
      | none => none
      | some (.error e, st) => some (.error e, st)
      | some (.ok (), st) => decodeChildren parseFile ctx nodes st

/-- The text of one file, `parse_with_context` of `knuffel`: a file is parsed if
    decoding returned and no error was emitted. -/
def parseText (parseFile : ParseFile S) (ctx : FileContext) (file text : String)
    (shared : Shared S) : Option (Except ParseError Unit × Shared S) :=
  match env.parseDocument text with
  | .error errors => some (.error ⟨file, errors⟩, shared)
  | .ok nodes =>
      match decodeChildren env parseFile ctx nodes (.start shared) with
      | none => none
      | some (.error e, st) => some (.error ⟨file, st.errors ++ [e]⟩, st.shared)
      | some (.ok (), st) =>
          if st.errors = [] then some (.ok (), st.shared)
          else some (.error ⟨file, st.errors⟩, st.shared)

def parseWithContext : Nat → ParseFile S
  | 0 => fun _ _ _ _ => none
  | fuel + 1 => parseText env (parseWithContext fuel)

/-! ## The config -/

/-- The bind of the action palette, when it is enabled and its key parses. -/
def paletteBind (palette : ActionPalette) : Option Bind :=
  if palette.enable then
    match palette.bind with
    | none => none
    | some bindStr =>
        match keyFromStr env bindStr with
        | .error _ => none
        | .ok key =>
            some
              { key
                action := .toggleActionPalette
                repeats := false
                cooldown := none
                allowWhenLocked := false
                allowInhibiting := true
                hotkeyOverlayTitle := none }
  else none

/-- `ConfigIncludeError`. -/
structure ConfigIncludeError where
  main : ParseError
  includes : List ParseError
deriving DecidableEq, Repr

structure ConfigParseResult (S : Schema) where
  config : Except ConfigIncludeError (Config S)
  includes : List Path

def Shared.default : Shared S := ⟨⟨.default, false⟩, [], []⟩

/-- The context of the main config. -/
def mainContext (path : Path) : FileContext :=
  let base := path.parent.getD .empty
  ⟨base, base, 0, [path]⟩

/-- `Config::parse`. -/
def Config.parse (fuel : Nat) (path : Path) (text : String) :
    Option (ConfigParseResult S) :=
  match parseWithContext env fuel (mainContext path) (path.fileName.getD "config.kdl") text
      .default with
  | none => none
  | some (.error err, shared) => some ⟨.error ⟨err, shared.includeErrors⟩, shared.includes⟩
  | some (.ok (), shared) =>
      let config := shared.settings.config
      some
        { config := .ok { config with
            binds := Override.override Bind.key config.binds
              (paletteBind env config.actionPalette).toList }
          includes := shared.includes }

end Cidre.NiriConfig

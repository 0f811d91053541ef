import KnowledgeDesk.Template.Syntax
import KnowledgeDesk.Json.Value

/-!
# Rendering templates

A template renders against a JSON value, without escaping anything.

**Scopes.** Rendering keeps a stack of scopes, innermost first. A scope is a place in the data
(a path from the top) or a value of its own, with block parameters (`as |item key|`) and local
values (`@index`, `@key`, `@first`, `@last`). A path is looked up from the innermost scope; `../`
starts that many scopes out, `@root` starts at the top, and a first step that names a block
parameter starts at that parameter. A step into something that is not an object (or an array, by
index) finds nothing, and nothing renders as empty text.

**Helpers.** A tag with arguments, and every block, calls a helper: `if`, `unless`, `each`,
`with`, `lookup`, `raw`, `log`, and the value helpers `eq`, `ne`, `gt`, `gte`, `lt`, `lte`,
`and`, `or`, `not`, `len`. A value helper used as a block renders its body when its value is
truthy and its `else` part otherwise. A tag without arguments that names no helper renders the
value at its path.

**Values as text.** Strings as they are, numbers in their JSON form, `null` as nothing, arrays as
`[a, b]`, objects as `[object]`.

**Errors** carry the line and column of the innermost tag that failed.
-/

namespace KnowledgeDesk.Template

/-- Why rendering failed. -/
structure RenderError where
  reason : String
  place : Option (Nat × Nat) := none

/-- The text of a render error: with its place, `Error rendering "Unnamed template" line L, col C:
reason`. -/
def RenderError.text (e : RenderError) : String :=
  match e.place with
  | some (l, c) => s!"Error rendering \"Unnamed template\" line {l}, col {c}: " ++ e.reason
  | none => e.reason

/-- A value being rendered: the path of the data it comes from (if any) and the value, `none`
when nothing was found. -/
structure Scoped where
  path : Option (List String) := none
  value : Option Json := none
  deriving Inhabited

def Scoped.json (s : Scoped) : Json := s.value.getD .null

/-- What a block parameter stands for: a place in the data or a value. -/
inductive ParamHolder where
  | path (p : List String)
  | value (j : Json)

structure Scope where
  basePath : List String := []
  baseValue : Option Json := none
  blockParams : List (String × ParamHolder) := []
  locals : List (String × Json) := []

/-- The rendering state: scopes (innermost first) and partials defined so far. -/
structure RenderState where
  scopes : List Scope := [{}]
  partials : List (String × List Element) := []

/-- Whether a float counts as true: a normal number (not zero, not too small to be normal, not
infinite or NaN); with `includeZero`, any number but NaN. -/
def floatTruthy (includeZero : Bool) (x : Float) : Bool :=
  if includeZero then !x.isNaN else
  match Number.Float.value x with
  | .finite _ m _ => m ≥ Nat.pow 2 52
  | _ => false

/-- Whether a value counts as true: `false`, `null`, zero (and numbers too small to be normal),
empty texts, arrays and objects do not. With `includeZero`, zero counts. -/
def truthy (includeZero : Bool) : Json → Bool
  | .bool b => b
  | .int i => includeZero || i ≠ 0
  | .float x => floatTruthy includeZero x
  | .single x => floatTruthy includeZero x.toFloat
  | .null => false
  | .str s => !s.isEmpty
  | .arr xs => !xs.isEmpty
  | .obj fs => !fs.isEmpty

def renderValue : Json → String
  | .str s => s
  | .bool b => toString b
  | .null => ""
  | .arr xs => "[" ++ ", ".intercalate (xs.map renderValue) ++ "]"
  | .obj _ => "[object]"
  | j => Json.compact j

/-- Equality of values as data: objects compare as maps, integers and floats never equal. -/
def jsonEq (a b : Json) : Bool := Json.compact (Json.sortKeys a) == Json.compact (Json.sortKeys b)

def asI64 : Json → Option Int
  | .int i => if -9223372036854775808 ≤ i && i ≤ 9223372036854775807 then some i else none
  | _ => none

/-- One step into a value: a field of an object or an item of an array. -/
def stepInto (d : Option Json) (key : String) : Except RenderError (Option Json) :=
  match d with
  | some (.arr xs) =>
    match key.toNat? with
    | some n => .ok xs[n]?
    | none => .error { reason := "Cannot access array/vector with string index, " ++ key }
  | some (.obj fs) => .ok ((fs.reverse.find? (·.1 = key)).map (·.2))
  | _ => .ok none

def follow (d : Option Json) : List String → Except RenderError (Option Json)
  | [] => .ok d
  | k :: rest => do follow (← stepInto d k) rest

def namedSteps (segs : List PathSeg) : List String :=
  segs.filterMap fun s => match s with
    | .named n => some n
    | _ => none

def lookupPath (data : Json) (st : RenderState) (segs : List PathSeg) : Except RenderError Scoped := do
  -- A local value: `@name`, possibly after `../` steps.
  match segs with
  | .local :: rest =>
    let ups := (rest.takeWhile (· = .up)).length
    match rest.drop ups with
    | .named n :: _ =>
      let v := (st.scopes[ups]?).bind fun s => (s.locals.find? (·.1 = n)).map (·.2)
      return { value := v }
    | _ => pure ()
  | _ => pure ()
  -- Peek for `../`, `@root` and block parameters.
  let rec peek (segs : List PathSeg) (depth : Nat) : Nat × Bool × Option String :=
    match segs with
    | .named n :: _ => (depth, false, some n)
    | .root :: _ => (depth, true, none)
    | .up :: rest => peek rest (depth + 1)
    | _ => (depth, false, none)
  let (depth, fromRoot, firstName) := peek segs 0
  let param : Option (ParamHolder × List String) := firstName.bind fun n => st.scopes.findSome? fun s =>
    (s.blockParams.find? (·.1 = n)).map fun (_, h) => (h, s.basePath)
  let rest := namedSteps (segs.drop (depth + 1))
  match param with
  | some (.value v, _) =>
    let r ← follow (some v) rest
    pure { value := r }
  | some (.path p, base) =>
    let full := base ++ p ++ rest
    let r ← follow (some data) full
    pure { path := some full, value := r }
  | none =>
    let steps := namedSteps segs
    let scope := if fromRoot && depth = 0 then none
      else some ((st.scopes[depth]?).getD (st.scopes.head?.getD {}))
    match scope with
    | some s =>
      match s.baseValue with
      | some v =>
        let r ← follow (some v) steps
        pure { value := r }
      | none =>
        let full := s.basePath ++ steps
        let r ← follow (some data) full
        pure { path := some full, value := r }
    | none =>
      let r ← follow (some data) steps
      pure { path := some steps, value := r }

def helperNames : List String :=
  ["if", "unless", "each", "with", "lookup", "raw", "log", "eq", "ne", "lt", "gt", "lte", "gte",
   "and", "or", "not", "len"]

/-- The value helpers: each takes its arguments' values and gives a value. -/
def valueHelper? (name : String) (args : List Json) : Option (Except RenderError Json) :=
  let missing (p : String) : Except RenderError Json :=
    .error { reason := s!"Helper/Decorator {name} param with name {p} required but not found" }
  let mismatch (p t : String) : Except RenderError Json :=
    .error { reason := s!"Helper {name} param with name {p} type mismatch for {t}" }
  let two (f : Json → Json → Except RenderError Json) : Except RenderError Json :=
    match args with
    | x :: y :: _ => f x y
    | [_] => missing "y"
    | [] => missing "x"
  let ints (f : Int → Int → Bool) : Except RenderError Json :=
    two fun x y => match asI64 x, asI64 y with
      | some a, some b => .ok (.bool (f a b))
      | none, _ => mismatch "x" "i64"
      | _, none => mismatch "y" "i64"
  let one (f : Json → Json) : Except RenderError Json :=
    match args with
    | x :: _ => .ok (f x)
    | [] => missing "x"
  match name with
  | "eq" => some (two fun x y => .ok (.bool (jsonEq x y)))
  | "ne" => some (two fun x y => .ok (.bool !(jsonEq x y)))
  | "gt" => some (ints fun a b => a > b)
  | "gte" => some (ints fun a b => a ≥ b)
  | "lt" => some (ints fun a b => a < b)
  | "lte" => some (ints fun a b => a ≤ b)
  | "and" => some (two fun x y => .ok (.bool (truthy false x && truthy false y)))
  | "or" => some (two fun x y => .ok (.bool (truthy false x || truthy false y)))
  | "not" => some (one fun x => .bool !(truthy false x))
  | "len" => some (one fun x => match x with
      | .arr xs => .int xs.length
      | .obj fs => .int (Json.sortedFields fs).length
      | .str s => .int s.utf8ByteSize
      | _ => .int 0)
  | _ => none

/-- A helper call with its arguments evaluated. -/
structure Invocation where
  name : String
  params : List Scoped
  hash : List (String × Scoped)
  body : Option (List Element)
  inverse : Option (List Element)
  blockParams : Option (String × Option String)
  isBlock : Bool

/-- The `lookup` helper: a field of an object or an item of an array. -/
def lookupHelper (params : List Scoped) : Except RenderError Json :=
  match params with
  | c :: k :: _ =>
    let r : Option Json := match c.json, k.json with
      | .arr xs, .int i => if 0 ≤ i then xs[i.toNat]? else none
      | .obj fs, .str key => (fs.reverse.find? (·.1 = key)).map (·.2)
      | _, _ => none
    .ok (r.getD .null)
  | [_] => .error { reason := "Helper/Decorator lookup param at index 1 required but not found" }
  | [] => .error { reason := "Helper/Decorator lookup param at index 0 required but not found" }

section Render

variable (data : Json)

def placeError (place : Option (Nat × Nat)) (e : RenderError) : RenderError :=
  if e.place.isSome then e else { e with place := place }

mutual
def renderAll (fuel : Nat) (st : RenderState) : List Element → Except RenderError (String × RenderState)
  | [] => .ok ("", st)
  | e :: rest =>
    match fuel with
    | 0 => .ok ("", st)
    | fuel + 1 =>
    match renderElement fuel st e with
    | .error err => .error (placeError e.place err)
    | .ok (s, st) =>
      match renderAll fuel st rest with
      | .ok (t, st) => .ok (s ++ t, st)
      | .error err => .error err

def renderElement (fuel : Nat) (st : RenderState) (e : Element) : Except RenderError (String × RenderState) := do
  match fuel with
  | 0 => .ok ("", st)
  | fuel + 1 =>
  match e with
  | .text s => pure (s, st)
  | .comment _ _ => pure ("", st)
  | .value c _ _ =>
    if c.nameOnly then
      let name ← nameOf fuel st c.name
      if helperNames.contains name then
        invoke fuel st c none none false
      else
        let v ← expand fuel st c.name
        pure (match v.value with
          | some j => renderValue j
          | none => "", st)
    else invoke fuel st c none none false
  | .block kind c body inverse _ _ =>
    match kind with
    | .partialBlock => includePartial fuel st c (some body)
    | .decorator => decorate fuel st c (some body)
    | _ => invoke fuel st c (some body) inverse true
  | .partialCall c _ _ => includePartial fuel st c none
  | .decorator c _ _ => decorate fuel st c none

def nameOf (fuel : Nat) (st : RenderState) : Param → Except RenderError String
  | .sub n ps hs => do
    match fuel with
    | 0 => pure ""
    | fuel + 1 =>
    let v ← expand fuel st (.sub n ps hs)
    pure (renderValue v.json)
  | p => pure p.asName

def expand (fuel : Nat) (st : RenderState) (p : Param) : Except RenderError Scoped := do
  match fuel with
  | 0 => pure {}
  | fuel + 1 =>
  match p with
  | .name _ => pure {}
  | .path _ segs => lookupPath data st segs
  | .literal j => pure { value := some j }
  | .sub n ps hs =>
    let name ← nameOf fuel st n
    let params ← ps.mapM (expand fuel st)
    let hash ← hs.mapM fun (k, v) => do pure (k, ← expand fuel st v)
    match valueHelper? name (params.map Scoped.json) with
    | some r => pure { value := some (← r) }
    | none =>
      if name = "lookup" then
        pure { value := some (← lookupHelper params) }
      else if helperNames.contains name then
        let inv : Invocation := ⟨name, params, hash, none, none, none, false⟩
        let (s, _) ← callHelper fuel st inv
        pure { value := some (.str s) }
      else throw { reason := "Helper not found " ++ name }

def invoke (fuel : Nat) (st : RenderState) (c : Call) (body inverse : Option (List Element))
    (isBlock : Bool) : Except RenderError (String × RenderState) := do
  match fuel with
  | 0 => pure ("", st)
  | fuel + 1 =>
  let name ← nameOf fuel st c.name
  let params ← c.params.mapM (expand fuel st)
  let hash ← c.hash.mapM fun (k, v) => do pure (k, ← expand fuel st v)
  if !helperNames.contains name then throw { reason := "Helper not found " ++ name }
  let (s, _) ← callHelper fuel st ⟨name, params, hash, body, inverse, c.blockParams, isBlock⟩
  pure (s, st)

def callHelper (fuel : Nat) (st : RenderState) (h : Invocation) : Except RenderError (String × RenderState) := do
  match fuel with
  | 0 => pure ("", st)
  | fuel + 1 =>
  let required (helper : String) (i : Nat) : Except RenderError Scoped :=
    match h.params[i]? with
    | some v => .ok v
    | none => .error { reason := s!"Helper/Decorator {helper} param at index {i} required but not found" }
  let renderOpt (t : Option (List Element)) (st : RenderState) : Except RenderError (String × RenderState) :=
    match t with
    | some els => renderAll fuel st els
    | none => .ok ("", st)
  match h.name with
  | "if" | "unless" =>
    let v ← required h.name 0
    let includeZero := match h.hash.find? (·.1 = "includeZero") with
      | some (_, z) => truthy false z.json
      | none => false
    let t := truthy includeZero v.json
    let t := if h.name = "unless" then !t else t
    renderOpt (if t then h.body else h.inverse) st
  | "with" =>
    let v ← required "with" 0
    if truthy false v.json then
      let scope : Scope := match v.path with
        | some p => { basePath := p }
        | none => { baseValue := some v.json }
      let scope := match h.blockParams with
        | some (name, _) =>
          { scope with blockParams := [(name, match v.path with
            | some _ => .path []
            | none => .value v.json)] }
        | none => scope
      let (s, st') ← renderOpt h.body { st with scopes := scope :: st.scopes }
      pure (s, { st' with scopes := st.scopes })
    else renderOpt h.inverse st
  | "each" =>
    let v ← required "each" 0
    match h.body with
    | none => pure ("", st)
    | some body =>
      let entries : Option (List (Json × String × Json)) := match v.json with
        | .arr xs => if !xs.isEmpty || h.inverse.isNone then
            some (xs.zipIdx.map fun (x, i) => (.int i, toString i, x)) else none
        | .obj fs => if !fs.isEmpty || h.inverse.isNone then
            some ((Json.sortedFields fs).map fun (k, x) => (.str k, k, x)) else none
        | _ => none
      match entries with
      | none => renderOpt h.inverse st
      | some items =>
        let n := items.length
        let base : Scope := match v.path with
          | some p => { basePath := p }
          | none => { baseValue := some v.json }
        let isArr := match v.json with | .arr _ => true | _ => false
        eachItems fuel st h v body isArr base n items 0 ""
  | "lookup" =>
    let v ← lookupHelper h.params
    valueBlock fuel st h v
  | "raw" => renderOpt h.body st
  | "log" =>
    let level := match h.hash.find? (·.1 = "level") with
      | some (_, l) => match l.json with
        | .str s => s
        | _ => "info"
      | none => "info"
    if ["trace", "debug", "info", "warn", "error"].contains (String.ofList (level.toList.map Char.toLower)) then
      pure ("", st)
    else throw { reason := "Invalid logging level: " ++ level }
  | name =>
    match valueHelper? name (h.params.map Scoped.json) with
    | some r => valueBlock fuel st h (← r)
    | none => throw { reason := "Helper not found " ++ name }

/-- Render the body of `each` once per item, with the item's scope. -/
def eachItems (fuel : Nat) (st : RenderState) (h : Invocation) (v : Scoped) (body : List Element)
    (isArr : Bool) (base : Scope) (n : Nat) (items : List (Json × String × Json)) (i : Nat)
    (acc : String) : Except RenderError (String × RenderState) := do
  match fuel with
  | 0 => pure (acc, st)
  | fuel + 1 =>
  match items with
  | [] => pure (acc, st)
  | (key, step, x) :: rest =>
    let locals : List (String × Json) :=
      [("first", .bool (i = 0)), ("last", .bool (i + 1 = n)),
       (if isArr then "index" else "key", key)]
    let scope : Scope := match v.path with
      | some p => { base with basePath := p ++ [step], locals }
      | none => { base with baseValue := some x, locals }
    let scope := match h.blockParams with
      | some (vName, kName) =>
        let vp : ParamHolder := if v.path.isSome then .path [] else .value x
        let kp := match kName with
          | some k => [(k, ParamHolder.value key)]
          | none => []
        { scope with blockParams := (vName, vp) :: kp }
      | none => scope
    let (s, st') ← renderAll fuel { st with scopes := scope :: st.scopes } body
    eachItems fuel { st' with scopes := st.scopes } h v body isArr base n rest (i + 1) (acc ++ s)

/-- The output of a value helper: its value as text, or as a block, its body when the value is
truthy and its `else` part otherwise. -/
def valueBlock (fuel : Nat) (st : RenderState) (h : Invocation) (v : Json) :
    Except RenderError (String × RenderState) :=
  match fuel with
  | 0 => .ok ("", st)
  | fuel + 1 =>
  if h.isBlock then
    match (if truthy false v then h.body else h.inverse) with
    | some els => renderAll fuel st els
    | none => .ok ("", st)
  else .ok (renderValue v, st)

/-- Include a partial: one defined earlier by an inline decorator, else a partial block's own
body. -/
def includePartial (fuel : Nat) (st : RenderState) (c : Call) (body : Option (List Element)) :
    Except RenderError (String × RenderState) := do
  match fuel with
  | 0 => pure ("", st)
  | fuel + 1 =>
  let name ← nameOf fuel st c.name
  match st.partials.find? (·.1 = name) with
  | some (_, els) =>
    let (s, _) ← renderAll fuel st els
    pure (s, st)
  | none =>
    match body with
    | some els =>
      let (s, _) ← renderAll fuel st els
      pure (s, st)
    | none => throw { reason := "Partial not found " ++ name }

def decorate (fuel : Nat) (st : RenderState) (c : Call) (body : Option (List Element)) :
    Except RenderError (String × RenderState) := do
  match fuel with
  | 0 => pure ("", st)
  | fuel + 1 =>
  let name ← nameOf fuel st c.name
  if name ≠ "inline" then throw { reason := "Decorator not found " ++ name }
  let params ← c.params.mapM (expand fuel st)
  let pname ← match params.head? with
    | some p => match p.json with
      | .str s => pure s
      | _ => throw { reason := "Invalid param type, string expected" }
    | none => throw { reason := "Helper/Decorator inline param at index 0 required but not found" }
  match body with
  | some els => pure ("", { st with partials := (pname, els) :: st.partials })
  | none => throw { reason := "Block content required" }

end

end Render

/-- Render compiled elements against data. -/
def renderElements (els : List Element) (data : Json) : Except RenderError String :=
  (renderAll data (100000 + 64 * els.length) {} els).map (·.1)

end KnowledgeDesk.Template

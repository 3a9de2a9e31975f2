import Stratalog.Yaml.TokenStream

/-!
# YAML documents

A document is a tree of scalars, sequences and mappings. An alias stands for the node that was
last given its name; only an alias inside that very node is kept as a reference.
-/

namespace Stratalog.Yaml

/-- A node of a document. -/
inductive Node where
  | scalar (style : ScalarStyle) (tag : Option String) (text : String)
  | sequence (items : List Node)
  | mapping (pairs : List (Node × Node))
  | reference (name : String)
  deriving Repr, Inhabited

/-- A scalar that is not written. -/
def Node.empty : Node :=
  .scalar .plain none ""

/-- What is left to read, and what the names and handles met so far stand for. -/
structure Reading where
  tokens : List Token
  anchors : List (String × Node) := []
  handles : List (String × String) := [("!", "!"), ("!!", "tag:yaml.org,2002:")]
  deriving Repr, Inhabited

namespace Reading

/-- Leave out the next token. -/
def skip (reading : Reading) : Reading :=
  { reading with tokens := reading.tokens.tail }

/-- The next token. -/
def head? (reading : Reading) : Option Token :=
  reading.tokens.head?

/-- Give a node a name. -/
def define (reading : Reading) (name : Option String) (node : Node) : Reading :=
  { reading with anchors := (name.map (·, node)).toList ++ reading.anchors }

/-- The full text of a tag. -/
def expand? (reading : Reading) (handle suffix : String) : Option String :=
  if handle = "" then some suffix
  else (reading.handles.lookup handle).map (· ++ suffix)

/-- The name and the tag before a node, each at most once. -/
def properties? (reading : Reading) :
    Option (Option String × Option String × Reading) :=
  match reading.tokens with
  | .anchor name :: .tag handle suffix :: rest | .tag handle suffix :: .anchor name :: rest => do
    return (some name, some (← reading.expand? handle suffix), { reading with tokens := rest })
  | .anchor name :: rest => some (some name, none, { reading with tokens := rest })
  | .tag handle suffix :: rest => do
    return (none, some (← reading.expand? handle suffix), { reading with tokens := rest })
  | _ => some (none, none, reading)

/-- Whether one of the listed tokens comes next. -/
def atAny (reading : Reading) (tokens : List Token) : Bool :=
  reading.head?.any tokens.contains

end Reading

/-- The kind of collection that items are read for. -/
inductive Collection where
  | blockSequence
  | indentlessSequence
  | blockMapping
  | flowSequence
  | flowMapping
  deriving DecidableEq, Repr

/-- The tokens at which an item or a value of a collection is found to be missing. -/
def Collection.stops : Collection → List Token
  | .blockSequence => [.dash, .blockEnd]
  | .indentlessSequence => [.dash, .key, .value, .blockEnd]
  | .blockMapping => [.key, .value, .blockEnd]
  | .flowSequence => [.comma, .flowSequenceEnd]
  | .flowMapping => [.comma, .flowMappingEnd]

/-- Items as a node. -/
def sequence (read : Option (List Node × Reading)) : Option (Node × Reading) :=
  read.map fun (items, reading) => (.sequence items, reading)

/-- Pairs as a node. -/
def mapping (read : Option (List (Node × Node) × Reading)) : Option (Node × Reading) :=
  read.map fun (pairs, reading) => (.mapping pairs, reading)

mutual

/-- Read a node. `block` says whether a block collection may begin, and `indentless` whether a
sequence may that is not indented. -/
def readNode (block indentless : Bool) : (fuel : Nat) → Reading → Option (Node × Reading)
  | 0, _ => none
  | fuel + 1, reading =>
    match reading.head? with
    | some (.alias name) =>
      (reading.anchors.lookup name).map fun node => (node, reading.skip)
    | _ => do
      let (name, tag, reading) ← reading.properties?
      let reading := reading.define name (.reference (name.getD ""))
      let (node, reading) ←
        match reading.head? with
        | some .dash =>
          if indentless then sequence (readItems .indentlessSequence fuel reading)
          else if name.isSome || tag.isSome then some (.scalar .plain tag "", reading)
          else none
        | some (.scalar style text) => some (.scalar style tag text, reading.skip)
        | some .flowSequence => sequence (readFlowItems true fuel reading.skip)
        | some .flowMapping => mapping (readFlowPairs true fuel reading.skip)
        | some .blockSequence =>
          if block then sequence (readItems .blockSequence fuel reading.skip) else none
        | some .blockMapping => if block then mapping (readPairs fuel reading.skip) else none
        | _ =>
          if name.isSome || tag.isSome then some (.scalar .plain tag "", reading) else none
      return (node, reading.define name node)

/-- Read a node unless it is missing. -/
def readOrEmpty (collection : Collection) (indentless : Bool) :
    (fuel : Nat) → Reading → Option (Node × Reading)
  | 0, _ => none
  | fuel + 1, reading =>
    if reading.atAny collection.stops then some (.empty, reading)
    else
      readNode (collection != .flowSequence && collection != .flowMapping) indentless fuel reading

/-- Read the items of a sequence in block style. -/
def readItems (collection : Collection) : (fuel : Nat) → Reading → Option (List Node × Reading)
  | 0, _ => none
  | fuel + 1, reading =>
    match reading.head? with
    | some .dash => do
      let (item, reading) ← readOrEmpty collection false fuel reading.skip
      let (items, reading) ← readItems collection fuel reading
      return (item :: items, reading)
    | token =>
      if collection = .indentlessSequence then some ([], reading)
      else if token = some .blockEnd then some ([], reading.skip)
      else none

/-- Read the pairs of a mapping in block style. -/
def readPairs : (fuel : Nat) → Reading → Option (List (Node × Node) × Reading)
  | 0, _ => none
  | fuel + 1, reading =>
    match reading.head? with
    | some .key => do
      let (key, reading) ← readOrEmpty .blockMapping true fuel reading.skip
      let (value, reading) ←
        if reading.head? = some .value then readOrEmpty .blockMapping true fuel reading.skip
        else some (.empty, reading)
      let (pairs, reading) ← readPairs fuel reading
      return ((key, value) :: pairs, reading)
    | some .blockEnd => some ([], reading.skip)
    | _ => none

/-- Read the value behind a key in flow style, if there is one. -/
def readFlowValue (collection : Collection) : (fuel : Nat) → Reading → Option (Node × Reading)
  | 0, _ => none
  | fuel + 1, reading =>
    if reading.head? = some .value then readOrEmpty collection false fuel reading.skip
    else some (.empty, reading)

/-- Read the items of a sequence in flow style; a marked key makes an item a mapping of one
pair. -/
def readFlowItems (first : Bool) : (fuel : Nat) → Reading → Option (List Node × Reading)
  | 0, _ => none
  | fuel + 1, reading =>
    if reading.head? = some .flowSequenceEnd then some ([], reading.skip)
    else if !first && reading.head? != some .comma then none
    else do
      let reading := if first then reading else reading.skip
      if reading.head? = some .flowSequenceEnd then some ([], reading.skip)
      else
        let (item, reading) ←
          if reading.head? = some .key then do
            let (key, reading) ←
              if reading.skip.head? = some .value then some (Node.empty, reading.skip)
              else readOrEmpty .flowSequence false fuel reading.skip
            let (value, reading) ← readFlowValue .flowSequence fuel reading
            some (.mapping [(key, value)], reading)
          else readNode false false fuel reading
        let (items, reading) ← readFlowItems false fuel reading
        return (item :: items, reading)

/-- Read the pairs of a mapping in flow style; a value may be missing, and so may a marked key. -/
def readFlowPairs (first : Bool) :
    (fuel : Nat) → Reading → Option (List (Node × Node) × Reading)
  | 0, _ => none
  | fuel + 1, reading =>
    if reading.head? = some .flowMappingEnd then some ([], reading.skip)
    else if !first && reading.head? != some .comma then none
    else do
      let reading := if first then reading else reading.skip
      if reading.head? = some .flowMappingEnd then some ([], reading.skip)
      else
        let (key, reading) ←
          if reading.head? = some .key then
            if reading.skip.head? = some .value then some (Node.empty, reading.skip)
            else readOrEmpty .flowMapping false fuel reading.skip
          else readNode false false fuel reading
        let (value, reading) ← readFlowValue .flowMapping fuel reading
        let (pairs, reading) ← readFlowPairs false fuel reading
        return ((key, value) :: pairs, reading)

end

/-- Take the directives before a document; a version may be given once and a handle defined
once. -/
def takeDirectives : List (String × String) → Bool → List Token →
    Option (List (String × String) × List Token)
  | handles, versioned, .version major minor :: rest =>
    if versioned || major != 1 || (minor != 1 && minor != 2) then none
    else takeDirectives handles true rest
  | handles, versioned, .handle name expansion :: rest =>
    if handles.any (·.1 == name) then none
    else takeDirectives (handles ++ [(name, expansion)]) versioned rest
  | handles, _, rest => some (handles, rest)

/-- Read the only document of a list of tokens behind its directives, if there is one; `directed`
says whether there are any. -/
def readDocument (directed : Bool) (fuel : Nat) (reading : Reading) : Option (Option Node) := do
  let begun := reading.head? = some .documentStart
  if directed && !begun then none
  else if reading.tokens.isEmpty then return none
  else
    let reading := if begun then reading.skip else reading
    let (node, reading) ←
      if begun && (reading.tokens.isEmpty || reading.atAny [.documentStart, .documentEnd]) then
        some (Node.empty, reading)
      else readNode true false fuel reading
    if reading.tokens.all (· = .documentEnd) then return some node else none

/-- The only document of a text, if the text has one; more than one is refused. -/
def Node.parse? (text : String) : Option (Option Node) := do
  let tokens ← tokens? text
  let (handles, rest) ← takeDirectives [] false tokens
  let reading : Reading := { tokens := rest }
  readDocument (rest.length < tokens.length) (4 * tokens.length + 4)
    { reading with handles := handles ++ reading.handles }

end Stratalog.Yaml
